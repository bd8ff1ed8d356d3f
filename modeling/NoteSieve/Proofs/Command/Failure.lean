import NoteSieve.Proofs.Command.Dispatch
import NoteSieve.Proofs.Config.Save
import NoteSieve.Proofs.Record.Exported

/-!
# What a run leaves behind

A run can fail at seven points, each with an error of its own (`NoteSieve.CommandLine.Fails`), and
it can end in four ways (`NoteSieve.CommandLine.Ends`): something is printed, it fails at once, it
fails while the configuration is saved, or the configuration is saved. Every run ends in one of
these ways (`NoteSieve.CommandLine.perform_ends`), and what a run leaves behind is read off them.

* **Only a configuration that is saved changes a file**, and only its own
  (`NoteSieve.CommandLine.Ends.contentAt?_ne`). A run that fails leaves at most directories behind.
* **A run fails exactly at these points** (`NoteSieve.CommandLine.perform_eq_error_iff`), and the
  error decides how it exits and what it prints: nothing on standard output, and on standard error a
  line or, on demand, a document that can be read back
  (`NoteSieve.CommandError.read?_report`).
* **Every error has a wording of its own**, given kind by kind in `NoteSieve.DiskError.SaidAs`,
  `NoteSieve.ConfigError.SaidAs` and `NoteSieve.CommandError.SaidAs`. What is wrong with a text that
  cannot be read is passed on as the readers complain of it.
-/

namespace NoteSieve

open Json

/-! ### The wording of an error -/

/-- What is said of a path that cannot be read or written. -/
inductive DiskError.SaidAs : DiskError → Text → Prop
  | notFound : SaidAs .notFound "No such file or directory (os error 2)".toList
  | alreadyExists : SaidAs .alreadyExists "File exists (os error 17)".toList
  | notDirectory : SaidAs .notDirectory "Not a directory (os error 20)".toList
  | isDirectory : SaidAs .isDirectory "Is a directory (os error 21)".toList
  | nameTooLong : SaidAs .nameTooLong "File name too long (os error 36)".toList
  | notText : SaidAs .notText "stream did not contain valid UTF-8".toList
  | permissionDenied : SaidAs (.refused .permissionDenied) "Permission denied (os error 13)".toList
  | readOnly : SaidAs (.refused .readOnly) "Read-only file system (os error 30)".toList

/-- What is said of a configuration, given what is complained of in the text of its file. -/
inductive ConfigError.SaidAs (complaint : Text → Text) : ConfigError → Text → Prop
  | noHome : SaidAs complaint .noHome "Could not determine config directory".toList
  | unreadable {cause : DiskError} {said : Text} (h : cause.SaidAs said) :
    SaidAs complaint (.unreadable cause) ("Failed to read config: ".toList ++ said)
  | unparsable (s : Text) :
    SaidAs complaint (.unparsable s) ("Failed to parse config: ".toList ++ complaint s)
  | unknownKey (key : Text) :
    SaidAs complaint (.unknownKey key)
      ("Unknown config key '".toList ++ key
        ++ "'. Valid keys: search.tag_operator, search.localized_tag_operator, ".toList
        ++ "output.color".toList)
  | blankOperator : SaidAs complaint .blankOperator "Tag operator cannot be empty".toList
  | notBoolean (value : Text) :
    SaidAs complaint (.notBoolean value)
      ("Invalid boolean value '".toList ++ value
        ++ "'. Use true/false, yes/no, 1/0, or on/off".toList)
  | noDirectory {cause : DiskError} {said : Text} (h : cause.SaidAs said) :
    SaidAs complaint (.noDirectory cause) ("Failed to create config directory: ".toList ++ said)
  | unwritable {cause : DiskError} {said : Text} (h : cause.SaidAs said) :
    SaidAs complaint (.unwritable cause) ("Failed to write config: ".toList ++ said)

/-- What is said of a command that fails, given what the readers complain of. -/
inductive CommandError.SaidAs (complaints : Complaints) : CommandError → Text → Prop
  | config {cause : ConfigError} {said : Text} (h : cause.SaidAs complaints.config said) :
    SaidAs complaints (.config cause) ("configuration error: ".toList ++ said)
  | unreadable {cause : DiskError} {said : Text} (file : Text) (h : cause.SaidAs said) :
    SaidAs complaints (.records (.unreadable file cause))
      ("I/O error: ".toList ++ file ++ ": ".toList ++ said)
  | malformed (kind : RecordKind) (s : Text) :
    SaidAs complaints (.records (.malformed kind s))
      ("serialization error: ".toList ++ complaints.records kind s)

theorem DiskError.saidAs_message (e : DiskError) : e.SaidAs e.message := by
  cases e with
  | refused cause => cases cause <;> constructor
  | _ => constructor

theorem ConfigError.saidAs_message (complaint : Text → Text) (e : ConfigError) :
    e.SaidAs complaint (e.message complaint) := by
  cases e with
  | noHome => exact .noHome
  | unreadable cause => exact .unreadable cause.saidAs_message
  | unparsable s => exact .unparsable s
  | unknownKey key => exact .unknownKey key
  | blankOperator => exact .blankOperator
  | notBoolean value => exact .notBoolean value
  | noDirectory cause => exact .noDirectory cause.saidAs_message
  | unwritable cause => exact .unwritable cause.saidAs_message

theorem CommandError.saidAs_message (complaints : Complaints) (e : CommandError) :
    e.SaidAs complaints (e.message complaints) := by
  cases e with
  | config cause => exact .config (cause.saidAs_message complaints.config)
  | records cause =>
    cases cause with
    | unreadable file cause => exact .unreadable file cause.saidAs_message
    | malformed kind s => exact .malformed kind s

theorem DiskError.SaidAs.eq_message {e : DiskError} {said : Text} (h : e.SaidAs said) :
    said = e.message := by
  cases h <;> rfl

theorem ConfigError.SaidAs.eq_message {complaint : Text → Text} {e : ConfigError} {said : Text}
    (h : e.SaidAs complaint said) : said = e.message complaint := by
  cases h with
  | unreadable h | noDirectory h | unwritable h => rw [h.eq_message]; rfl
  | _ => rfl

/-- **There is one wording for each error**, which is its message. -/
theorem CommandError.saidAs_iff {complaints : Complaints} {e : CommandError} {said : Text} :
    e.SaidAs complaints said ↔ said = e.message complaints := by
  refine ⟨fun h => ?_, fun h => h ▸ e.saidAs_message complaints⟩
  cases h with
  | config h => rw [h.eq_message]; rfl
  | unreadable file h => rw [h.eq_message]; rfl
  | malformed kind s => rfl

/-! ### The document of an error -/

theorem CommandError.isNatural_toJson (complaints : Complaints) (e : CommandError) :
    (e.toJson complaints).IsNatural := by
  have hinner : IsNatural (.ofMembers
      [("code".toList, .ofText e.code), ("message".toList, .ofText (e.message complaints))]) := by
    refine IsNatural.ofMembers ?_
    simp only [List.forall_mem_cons]
    exact ⟨IsNatural.string _, IsNatural.string _, List.forall_mem_nil _⟩
  exact IsNatural.ofMembers (List.forall_mem_singleton.mpr hinner)

/-- **An error is read back from its document**: its kind and its wording. -/
theorem CommandError.read?_report (complaints : Complaints) (e : CommandError) :
    read? (e.report complaints true) = some (.ofMembers [("error".toList, .ofMembers
      [("code".toList, .ofText e.code), ("message".toList, .ofText (e.message complaints))])]) :=
  (e.isNatural_toJson complaints).read?_write_line

/-! ### Points of failure -/

/-- The file of records that a command reads. -/
def Command.file? : Command → Option Text
  | .notes file _ _ _ | .tags file _ _ => some file
  | .parse _ | .complete _ _ _ | .config _ | .completions _ => none

variable {env : Environment} {disk : Disk} {line : CommandLine} {path : Text} {config : Config}
  {command : Command} {ctx : Context}

/-- Why records cannot be loaded. -/
theorem loadRecords_eq_error_iff {α : Type} {kind : RecordKind} {read : Json → Option α}
    {e : LoadError} :
    loadRecords kind read disk path = .error e ↔
      (∃ cause, disk.readText path = .error cause ∧ e = .unreadable path cause) ∨
        ∃ s, disk.readText path = .ok s ∧ parseRecords read s = none ∧
          e = .malformed kind s := by
  rw [loadRecords]
  cases disk.readText path with
  | error cause => simp [eq_comm]
  | ok s => cases hs : parseRecords read s <;> simp [hs, eq_comm]

/-- What a change of a setting does to a configuration that is loaded. -/
theorem Config.update_of_load {key value : Text} (h : load disk path = .ok config) :
    update disk path key value = match config.set key value with
      | .error e => ([], .error e)
      | .ok new => save disk path new := by
  rw [update, h]
  cases hset : config.set key value <;> simp [bind, Except.bind, hset]

namespace CommandLine

/-- The path of the configuration is asked for: by all commands but the script for a shell. -/
def AsksForPath (line : CommandLine) : Prop :=
  line.command ≠ none ∧ ∀ shell, line.command ≠ some (.completions shell)

/-- **The points at which a run fails**, each with its error. -/
inductive Fails (env : Environment) (disk : Disk) (line : CommandLine) : CommandError → Prop
  /-- There is no place for the configuration. -/
  | noPath {e : ConfigError} (hline : line.AsksForPath)
      (h : env.configPath line.configFile = .error e) : Fails env disk line (.config e)
  /-- The configuration cannot be loaded. -/
  | noConfig {path : Text} {e : ConfigError} (hline : ¬line.IsSelfContained)
      (hpath : env.configPath line.configFile = .ok path)
      (h : Config.load disk path = .error e) : Fails env disk line (.config e)
  /-- No setting has the key, or the text spells no value for it. -/
  | invalid {path key value : Text} {config : Config} {e : ConfigError}
      (hload : line.Loads env disk path config)
      (hcommand : line.command = some (.config (some (.set key value))))
      (h : config.set key value = .error e) : Fails env disk line (.config e)
  /-- The directory of the configuration cannot be made, or its file cannot be written. -/
  | unsaved {path key value : Text} {config new : Config} {dirs : List Disk.Change}
      {e : ConfigError} (hload : line.Loads env disk path config)
      (hcommand : line.command = some (.config (some (.set key value))))
      (hset : config.set key value = .ok new)
      (h : Config.prepare disk path = (dirs, .error e)) : Fails env disk line (.config e)
  /-- The file of the records cannot be read, or holds no text. -/
  | unreadable {path file : Text} {config : Config} {command : Command} {cause : DiskError}
      (hload : line.Loads env disk path config) (hcommand : line.command = some command)
      (hfile : command.file? = some file) (h : disk.readText file = .error cause) :
      Fails env disk line (.records (.unreadable file cause))
  /-- The file of the notes holds something else. -/
  | noNotes {path file query s : Text} {config : Config} {options : NoteOptions}
      {limit : Option Nat} (hload : line.Loads env disk path config)
      (hcommand : line.command = some (.notes file query options limit))
      (hfile : disk.readText file = .ok s) (h : parseRecords Note.ofJson? s = none) :
      Fails env disk line (.records (.malformed .notes s))
  /-- The file of the tags holds something else. -/
  | noTags {path file query s : Text} {config : Config} {limit : Option Nat}
      (hload : line.Loads env disk path config)
      (hcommand : line.command = some (.tags file query limit))
      (hfile : disk.readText file = .ok s) (h : parseRecords Tag.ofJson? s = none) :
      Fails env disk line (.records (.malformed .tags s))

/-! ### Ways to end -/

/-- **The ways in which a run ends**: what it changes, and what it prints or why it fails. -/
inductive Ends (env : Environment) (disk : Disk) (line : CommandLine) :
    List Disk.Change × Except CommandError Text → Prop
  /-- Something is printed. -/
  | printed (s : Text) : Ends env disk line ([], .ok s)
  /-- It fails before anything is changed. -/
  | failed {e : CommandError} (h : line.Fails env disk e) : Ends env disk line ([], .error e)
  /-- It fails while the configuration is saved. -/
  | unsaved {path : Text} {dirs : List Disk.Change} {e : ConfigError}
      (hprepare : Config.prepare disk path = (dirs, .error e))
      (h : line.Fails env disk (.config e)) : Ends env disk line (dirs, .error (.config e))
  /-- The configuration is saved. -/
  | saved {path key value : Text} {dirs : List Disk.Change} {p : Place} (new : Config) (s : Text)
      (hcommand : line.command = some (.config (some (.set key value))))
      (hpath : env.configPath line.configFile = .ok path)
      (hprepare : Config.prepare disk path = (dirs, .ok p)) :
      Ends env disk line (dirs ++ [⟨p, .file (.text new.render)⟩], .ok s)

/-! ### Every run ends in one of these ways -/

theorem changeSetting_ends {key value : Text} (hload : line.Loads env disk path config)
    (hcommand : line.command = some (.config (some (.set key value)))) (ctx : Context) :
    line.Ends env disk (changeSetting ctx disk path key value) := by
  rw [changeSetting, Config.update_of_load hload.load_eq]
  cases hset : config.set key value with
  | error e => exact .failed (.invalid hload hcommand hset)
  | ok new =>
    dsimp only
    rw [Config.save_eq]
    cases hprepare : Config.prepare disk path with
    | mk dirs result =>
      cases result with
      | error e => exact .unsaved hprepare (.unsaved hload hcommand hset hprepare)
      | ok p => exact .saved new _ hcommand hload.configPath_eq hprepare

theorem searchNotes_ends {file query : Text} {options : NoteOptions} {limit : Option Nat}
    (hload : line.Loads env disk path config)
    (hcommand : line.command = some (.notes file query options limit)) (ctx : Context) :
    line.Ends env disk ([], searchNotes ctx disk file query options limit) := by
  rw [searchNotes]
  cases h : loadNotes disk file with
  | ok notes => exact .printed _
  | error e =>
    rcases loadRecords_eq_error_iff.mp h with ⟨cause, hread, rfl⟩ | ⟨s, hread, hs, rfl⟩
    · exact .failed (.unreadable hload hcommand rfl hread)
    · exact .failed (.noNotes hload hcommand hread hs)

theorem suggestTags_ends {file query : Text} {limit : Option Nat}
    (hload : line.Loads env disk path config)
    (hcommand : line.command = some (.tags file query limit)) (ctx : Context) :
    line.Ends env disk ([], suggestTags ctx disk file query limit) := by
  rw [suggestTags]
  cases h : loadTags disk file with
  | ok tags => exact .printed _
  | error e =>
    rcases loadRecords_eq_error_iff.mp h with ⟨cause, hread, rfl⟩ | ⟨s, hread, hs, rfl⟩
    · exact .failed (.unreadable hload hcommand rfl hread)
    · exact .failed (.noTags hload hcommand hread hs)

/-- A command that goes by the configuration. -/
theorem Loads.perform_ends (hload : line.Loads env disk path config)
    (hcommand : line.command = some command) (ctx : Context) :
    line.Ends env disk (command.perform ctx disk path config) := by
  cases command with
  | notes file query options limit => exact searchNotes_ends hload hcommand ctx
  | tags file query limit => exact suggestTags_ends hload hcommand ctx
  | parse query => exact .printed _
  | complete query word asTag => exact .printed _
  | completions shell => exact .printed _
  | config sub =>
    cases sub with
    | none => exact .printed _
    | some sub =>
      cases sub with
      | view => exact .printed _
      | path => exact .printed _
      | set key value => exact changeSetting_ends hload hcommand ctx

theorem IsSelfContained.perform_ends (hline : line.IsSelfContained) (env : Environment)
    (disk : Disk) : line.Ends env disk (line.perform env disk) := by
  rw [perform]
  rcases hline with hcommand | ⟨shell, hcommand⟩ | hcommand
  · rw [hcommand]
    exact .printed _
  · rw [hcommand]
    exact .printed _
  · rw [hcommand]
    cases hpath : env.configPath line.configFile with
    | ok path =>
      rw [configPath_eq_ok hpath]
      exact .printed _
    | error e =>
      rw [configPath_eq_error hpath]
      exact .failed (.noPath (by simp [AsksForPath, hcommand]) hpath)

theorem asksForPath_of_not_isSelfContained (hline : ¬line.IsSelfContained) : line.AsksForPath :=
  ⟨fun h => hline (.inl h), fun shell h => hline (.inr (.inl ⟨shell, h⟩))⟩

/-- **Every run ends in one of the four ways.** -/
theorem perform_ends (env : Environment) (disk : Disk) (line : CommandLine) :
    line.Ends env disk (line.perform env disk) := by
  by_cases hline : line.IsSelfContained
  · exact hline.perform_ends env disk
  obtain ⟨command, hcommand⟩ := exists_command hline
  cases hpath : env.configPath line.configFile with
  | error e =>
    rw [perform_of_configPath_eq_error hline hpath]
    exact .failed (.noPath (asksForPath_of_not_isSelfContained hline) hpath)
  | ok path =>
    cases hload : Config.load disk path with
    | error e =>
      rw [perform_of_load_eq_error hline hpath hload]
      exact .failed (.noConfig hline hpath hload)
    | ok config =>
      have hloads : line.Loads env disk path config := ⟨hpath, hload⟩
      rw [hloads.perform_eq hline hcommand]
      exact hloads.perform_ends hcommand _

/-! ### Every point of failure is one -/

/-- **A run fails at a point of failure.** -/
theorem Fails.perform_eq {e : CommandError} (h : line.Fails env disk e) :
    (line.perform env disk).2 = .error e := by
  cases h with
  | noPath hline h =>
    by_cases hself : line.IsSelfContained
    · rcases hself with hcommand | ⟨shell, hcommand⟩ | hcommand
      · exact absurd hcommand hline.1
      · exact absurd hcommand (hline.2 shell)
      · rw [perform, hcommand, configPath_eq_error h]
        rfl
    · rw [perform_of_configPath_eq_error hself h]
  | noConfig hline hpath h => rw [perform_of_load_eq_error hline hpath h]
  | invalid hload hcommand h =>
    rw [hload.perform_set hcommand, changeSetting, Config.update_of_load hload.load_eq, h]
  | unsaved hload hcommand hset h =>
    rw [hload.perform_set hcommand, changeSetting, Config.update_of_load hload.load_eq, hset]
    simp only [Config.save_eq, h]
  | @unreadable path file config command cause hload hcommand hfile h =>
    have hnone {α : Type} (kind : RecordKind) (read : Json → Option α) :
        loadRecords kind read disk file = .error (.unreadable file cause) :=
      loadRecords_eq_error_iff.mpr (.inl ⟨cause, h, rfl⟩)
    cases command with
    | notes file' query options limit =>
      obtain rfl := Option.some.inj hfile
      rw [hload.perform_notes hcommand, searchNotes, loadNotes, hnone]
    | tags file' query limit =>
      obtain rfl := Option.some.inj hfile
      rw [hload.perform_tags hcommand, suggestTags, loadTags, hnone]
    | parse _ | complete _ _ _ | config _ | completions _ =>
      exact absurd hfile (by simp [Command.file?])
  | noNotes hload hcommand hfile h =>
    rw [hload.perform_notes hcommand, searchNotes, loadNotes,
      loadRecords_eq_error_iff.mpr (.inr ⟨_, hfile, h, rfl⟩)]
  | noTags hload hcommand hfile h =>
    rw [hload.perform_tags hcommand, suggestTags, loadTags,
      loadRecords_eq_error_iff.mpr (.inr ⟨_, hfile, h, rfl⟩)]

/-- **Where a run fails, and with which error.** -/
theorem perform_eq_error_iff {e : CommandError} :
    (line.perform env disk).2 = .error e ↔ line.Fails env disk e := by
  refine ⟨fun h => ?_, Fails.perform_eq⟩
  have hends := perform_ends env disk line
  generalize line.perform env disk = result at h hends
  cases hends with
  | printed s => exact absurd h (by simp)
  | failed hfails => exact Except.error.inj h ▸ hfails
  | unsaved _ hfails => exact Except.error.inj h ▸ hfails
  | saved new s => exact absurd h (by simp)

/-! ### What is changed -/

variable {result : List Disk.Change × Except CommandError Text} {p : Place}

/-- **A failure leaves at most directories behind.** -/
theorem Ends.makesDirectories {e : CommandError} (h : line.Ends env disk result)
    (hresult : result.2 = .error e) : disk.MakesDirectories result.1 := by
  cases h with
  | printed s => exact .nil disk
  | failed h => exact .nil disk
  | unsaved hprepare h => exact Config.makesDirectories_prepare hprepare
  | saved new s => exact absurd hresult (by simp)

/-- **Only a configuration that is saved changes a file**, and only its own. -/
theorem Ends.contentAt?_ne (h : line.Ends env disk result)
    (hp : (disk.apply result.1).contentAt? p ≠ disk.contentAt? p) :
    (∃ s, result.2 = .ok s) ∧ ∃ key value path,
      line.command = some (.config (some (.set key value))) ∧
      env.configPath line.configFile = .ok path ∧ (disk.apply result.1).resolve path = .ok p := by
  cases h with
  | printed s => exact absurd rfl hp
  | failed h => exact absurd rfl hp
  | unsaved hprepare h =>
    exact absurd ((Config.makesDirectories_prepare hprepare).contentAt?_apply p) hp
  | @saved path key value dirs q new s hcommand hpath hprepare =>
    have hdirs := (Config.makesDirectories_prepare hprepare).contentAt?_apply p
    rw [Disk.apply_append] at hp ⊢
    refine ⟨⟨s, rfl⟩, key, value, path, hcommand, hpath, ?_⟩
    obtain rfl : p = q := by
      by_contra hne
      exact hp ((Disk.contentAt?_change_of_ne hne).trans hdirs)
    exact Disk.resolve_change_of_placeToWrite (Config.placeToWrite_of_prepare hprepare) _

/-! ### What a run leaves behind -/

theorem run_eq_of_error {e : CommandError} (h : (line.perform env disk).2 = .error e) :
    line.run env disk
      = ⟨e.exitCode, [], e.report env.complaints line.json, (line.perform env disk).1⟩ := by
  rw [run_eq_ofCommand, h]
  rfl

theorem changes_run (env : Environment) (disk : Disk) (line : CommandLine) :
    (line.run env disk).changes = (line.perform env disk).1 := by
  rw [run_eq_ofCommand]
  cases (line.perform env disk).2 <;> rfl

theorem exitCode_ne_zero (e : CommandError) : e.exitCode ≠ 0 := by
  rcases e with _ | _ | _ <;> simp [CommandError.exitCode]

/-- A run has failed exactly if its exit code says so. -/
theorem exitCode_run_eq_zero_iff :
    (line.run env disk).exitCode = 0 ↔ ∃ s, (line.perform env disk).2 = .ok s := by
  cases h : (line.perform env disk).2 with
  | ok s =>
    refine iff_of_true ?_ ⟨s, rfl⟩
    rw [run_eq_ofCommand, h]
    rfl
  | error e =>
    rw [run_eq_of_error h]
    exact iff_of_false (exitCode_ne_zero e) (by simp)

/-- **What a run leaves behind.** If the content of any file is not what it was, the run has changed
a setting and exits with 0, and the file is the one that the path of the configuration leads to. A
run exits with another code exactly at the points of failure. It has then printed nothing on
standard output, made nothing but directories where nothing was, and left every file as it was; the
exit code and the code of the error go by the kind of the error, and on standard error there is what
is said of that error, or on demand the document that holds its code and what is said. -/
theorem run_leaves_behind (env : Environment) (disk : Disk) (line : CommandLine) :
    let outcome := line.run env disk
    let after := disk.apply outcome.changes
    (∀ p, after.contentAt? p ≠ disk.contentAt? p →
      outcome.exitCode = 0 ∧ ∃ key value path,
        line.command = some (.config (some (.set key value))) ∧
        env.configPath line.configFile = .ok path ∧ after.resolve path = .ok p) ∧
    (outcome.exitCode ≠ 0 ↔ ∃ e, line.Fails env disk e) ∧
    ∀ e, line.Fails env disk e →
      outcome.stdout = [] ∧ disk.MakesDirectories outcome.changes ∧
      (∀ p, after.contentAt? p = disk.contentAt? p) ∧
      (match e with
        | .config _ => outcome.exitCode = 5 ∧ e.code = "CONFIG_ERROR".toList
        | .records (.unreadable _ _) => outcome.exitCode = 3 ∧ e.code = "IO_ERROR".toList
        | .records (.malformed _ _) => outcome.exitCode = 1 ∧ e.code = "JSON_ERROR".toList) ∧
      ∃ said, e.SaidAs env.complaints said ∧
        (line.json = false → outcome.stderr = "Error: ".toList ++ said ++ ['\n']) ∧
        (line.json = true → read? outcome.stderr = some (.ofMembers [("error".toList, .ofMembers
          [("code".toList, .ofText e.code), ("message".toList, .ofText said)])])) := by
  intro outcome after
  have hends := perform_ends env disk line
  have hchanges : outcome.changes = (line.perform env disk).1 := changes_run env disk line
  refine ⟨fun p hp => ?_, ?_, fun e he => ?_⟩
  · have hsaved := hends.contentAt?_ne (p := p) (hchanges ▸ hp)
    exact ⟨exitCode_run_eq_zero_iff.mpr hsaved.1, by simpa only [after, hchanges] using hsaved.2⟩
  · rw [ne_eq, exitCode_run_eq_zero_iff]
    cases h : (line.perform env disk).2 with
    | ok s =>
      refine iff_of_false (by simp) fun hfails => ?_
      obtain ⟨e, he⟩ := hfails
      exact absurd (h.symm.trans he.perform_eq) (by simp)
    | error e => exact iff_of_true (by simp) ⟨e, perform_eq_error_iff.mp h⟩
  · have hmakes : disk.MakesDirectories outcome.changes :=
      hchanges ▸ hends.makesDirectories he.perform_eq
    have hrun : outcome = ⟨e.exitCode, [], e.report env.complaints line.json, _⟩ :=
      run_eq_of_error he.perform_eq
    refine ⟨by rw [hrun], hmakes, hmakes.contentAt?_apply, ?_, e.message env.complaints,
      CommandError.saidAs_iff.mpr rfl, fun hjson => ?_, fun hjson => ?_⟩
    · rw [hrun]
      rcases e with _ | _ | _ <;> exact ⟨rfl, rfl⟩
    · rw [hrun, hjson]
      rfl
    · rw [hrun, hjson]
      exact e.read?_report env.complaints

/-- A path with a slash at its end is none of a file: the directory on the way to it is made, and
then the configuration cannot be written. Where nothing may be put into the working directory not
even that is made. -/
theorem run_leaves_behind_directory :
    let env : Environment := ⟨none, none, none, none, false, .plain⟩
    let line : CommandLine := ⟨0, false, true, false, some "new/c/".toList, none, none,
      some (.config (some (.set "output.color".toList "on".toList)))⟩
    let blank : Disk := .ofEntries fun _ => none
    let closed : Disk := ⟨fun _ => none, fun p _ => if p = [] then some .permissionDenied else none⟩
    let document (message : Text) : Json := .ofMembers [("error".toList, .ofMembers
      [("code".toList, .ofText "CONFIG_ERROR".toList), ("message".toList, .ofText message)])]
    ((line.run env blank).changes = [⟨["new".toList], .directory⟩] ∧
      (line.run env blank).exitCode = 5 ∧ (line.run env blank).stdout = [] ∧
      read? (line.run env blank).stderr = some (document
        "configuration error: Failed to write config: Is a directory (os error 21)".toList)) ∧
    (line.run env closed).changes = [] ∧ (line.run env closed).exitCode = 5 ∧
      (line.run env closed).stdout = [] ∧
      read? (line.run env closed).stderr = some (document
        ("configuration error: ".toList ++ ("Failed to create config directory: ".toList
          ++ "Permission denied (os error 13)".toList))) := by
  intro env line blank closed document
  have hblank : line.Fails env blank (.config (.unwritable .isDirectory)) :=
    perform_eq_error_iff.mp (by decide)
  have hclosed : line.Fails env closed (.config (.noDirectory (.refused .permissionDenied))) :=
    perform_eq_error_iff.mp (by decide)
  constructor
  · obtain ⟨hstdout, -, -, hcode, said, hsaid, -, hstderr⟩ :=
      (run_leaves_behind env blank line).2.2 _ hblank
    obtain rfl := CommandError.saidAs_iff.mp hsaid
    exact ⟨by decide, hcode.1, hstdout, hstderr rfl⟩
  · obtain ⟨hstdout, -, -, hcode, said, hsaid, -, hstderr⟩ :=
      (run_leaves_behind env closed line).2.2 _ hclosed
    obtain rfl := CommandError.saidAs_iff.mp hsaid
    exact ⟨by decide, hcode.1, hstdout, hstderr rfl⟩

end CommandLine

end NoteSieve
