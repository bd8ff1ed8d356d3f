import NoteSieve.Command.Run
import NoteSieve.Proofs.Disk.Content

/-!
# What a run goes by

Most commands go by the configuration, which is looked for and loaded before anything else. Three
kinds of runs do not (`NoteSieve.CommandLine.IsSelfContained`): those without a command, with the
script for a shell, and with the path of the configuration. They have to work where the
configuration is broken, and **what the files hold makes no difference to them**.

For all others the configuration comes first (`NoteSieve.CommandLine.perform_eq`). With one
(`NoteSieve.CommandLine.Loads`) the command is carried out; **without one the run fails, and fails
in the same way whatever it was asked for** (`NoteSieve.CommandLine.perform_of_load_eq_error`). Both
are put together in `NoteSieve.CommandLine.run_of_contents`.
-/

namespace NoteSieve

variable {env : Environment} {disk disk' : Disk} {path : Text} {config : Config} {e : ConfigError}

/-! ### Loading a configuration -/

/-- Why a configuration cannot be loaded: something is there, but it cannot be read, or what is read
is no configuration. -/
theorem Config.load_eq_error_iff : load disk path = .error e ↔
    disk.exists? path = true ∧
      ((∃ cause, disk.readText path = .error cause ∧ e = .unreadable cause) ∨
        ∃ s, disk.readText path = .ok s ∧ parse? s = none ∧ e = .unparsable s) := by
  rw [load]
  cases disk.exists? path with
  | false => simp
  | true =>
    cases disk.readText path with
    | error cause => simp [eq_comm]
    | ok s => cases hs : parse? s <;> simp [hs, eq_comm]

/-- Something that is no configuration cannot be loaded as one. -/
theorem Config.exists_load_eq_error (hpath : disk.exists? path = true)
    (h : ∀ s c, disk.readText path = .ok s → parse? s ≠ some c) :
    ∃ e, load disk path = .error e := by
  cases hread : disk.readText path with
  | error cause => exact ⟨_, load_eq_error_iff.mpr ⟨hpath, .inl ⟨cause, hread, rfl⟩⟩⟩
  | ok s =>
    have hs : parse? s = none := Option.eq_none_iff_forall_not_mem.mpr fun c => h s c hread
    exact ⟨_, load_eq_error_iff.mpr ⟨hpath, .inr ⟨s, hread, hs, rfl⟩⟩⟩

namespace CommandLine

variable {line : CommandLine} {command : Command}

/-! ### Two kinds of runs -/

/-- **The command lines that have to work without a configuration**: those with no command, the
script for a shell, or the path of the configuration. -/
def IsSelfContained (line : CommandLine) : Prop :=
  line.command = none ∨ (∃ shell, line.command = some (.completions shell)) ∨
    line.command = some (.config (some .path))

/-- The configuration that a run goes by, and the path that it is kept at. -/
structure Loads (env : Environment) (disk : Disk) (line : CommandLine) (path : Text)
    (config : Config) : Prop where
  /-- The path is where the configuration is looked for. -/
  configPath_eq : env.configPath line.configFile = .ok path
  /-- The configuration is what is found there. -/
  load_eq : Config.load disk path = .ok config

theorem configPath_eq_ok (h : env.configPath line.configFile = .ok path) :
    line.configPath env = .ok path := by
  rw [configPath, h]

theorem configPath_eq_error (h : env.configPath line.configFile = .error e) :
    line.configPath env = .error (.config e) := by
  rw [configPath, h]

theorem run_eq_ofCommand (env : Environment) (disk : Disk) (line : CommandLine) :
    line.run env disk = .ofCommand env.complaints line.json (line.perform env disk).1
      (line.perform env disk).2 :=
  rfl

/-- **The configuration comes first.** -/
theorem perform_eq (hline : ¬line.IsSelfContained) (hcommand : line.command = some command)
    (env : Environment) (disk : Disk) : line.perform env disk =
      match line.configPath env with
      | .error e => ([], .error e)
      | .ok path =>
        match Config.load disk path with
        | .error e => ([], .error (.config e))
        | .ok config => command.perform (.of env line config) disk path config := by
  rw [perform, hcommand]
  split
  · next h => exact absurd h (by simp)
  · next shell h => exact absurd (.inr (.inl ⟨shell, hcommand.trans h⟩)) hline
  · next h => exact absurd (.inr (.inr (hcommand.trans h))) hline
  · next command' _ _ h =>
    obtain rfl := Option.some.inj h
    rfl

/-- **With a configuration the command is carried out.** -/
theorem Loads.perform_eq (h : line.Loads env disk path config) (hline : ¬line.IsSelfContained)
    (hcommand : line.command = some command) :
    line.perform env disk = command.perform (.of env line config) disk path config := by
  rw [CommandLine.perform_eq hline hcommand, configPath_eq_ok h.configPath_eq]
  simp only [h.load_eq]

theorem Loads.perform_notes {file query : Text} {options : NoteOptions} {limit : Option Nat}
    (h : line.Loads env disk path config)
    (hcommand : line.command = some (.notes file query options limit)) :
    line.perform env disk =
      ([], searchNotes (.of env line config) disk file query options limit) :=
  h.perform_eq (by simp [IsSelfContained, hcommand]) hcommand

theorem Loads.perform_tags {file query : Text} {limit : Option Nat}
    (h : line.Loads env disk path config)
    (hcommand : line.command = some (.tags file query limit)) :
    line.perform env disk = ([], suggestTags (.of env line config) disk file query limit) :=
  h.perform_eq (by simp [IsSelfContained, hcommand]) hcommand

theorem Loads.perform_set {key value : Text} (h : line.Loads env disk path config)
    (hcommand : line.command = some (.config (some (.set key value)))) :
    line.perform env disk = changeSetting (.of env line config) disk path key value :=
  h.perform_eq (by simp [IsSelfContained, hcommand]) hcommand

/-! ### Without a configuration -/

theorem exists_command (hline : ¬line.IsSelfContained) : ∃ command, line.command = some command :=
  Option.ne_none_iff_exists'.mp fun h => hline (.inl h)

/-- A run fails where there is no place for the configuration. -/
theorem perform_of_configPath_eq_error (hline : ¬line.IsSelfContained)
    (h : env.configPath line.configFile = .error e) (disk : Disk) :
    line.perform env disk = ([], .error (.config e)) := by
  obtain ⟨command, hcommand⟩ := exists_command hline
  rw [perform_eq hline hcommand, configPath_eq_error h]

/-- **A run fails where the configuration cannot be loaded**, whatever it was asked for. -/
theorem perform_of_load_eq_error (hline : ¬line.IsSelfContained)
    (hpath : env.configPath line.configFile = .ok path) (h : Config.load disk path = .error e) :
    line.perform env disk = ([], .error (.config e)) := by
  obtain ⟨command, hcommand⟩ := exists_command hline
  rw [perform_eq hline hcommand, configPath_eq_ok hpath]
  simp only [h]

/-- What the files hold makes no difference to a run without a configuration. -/
theorem IsSelfContained.run_eq (hline : line.IsSelfContained) (h : disk.SameTree disk') :
    line.run env disk = line.run env disk' := by
  have hprint : printConfigPath line.json disk = printConfigPath line.json disk' :=
    funext fun path => by rw [printConfigPath, printConfigPath, h.exists?_eq]
  rw [run, run, perform, perform]
  rcases hline with hcommand | ⟨shell, hcommand⟩ | hcommand
  · rw [hcommand]
  · rw [hcommand]
  · rw [hcommand]
    simp only [hprint]

end CommandLine

end NoteSieve
