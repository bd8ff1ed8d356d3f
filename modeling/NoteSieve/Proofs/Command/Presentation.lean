import NoteSieve.Proofs.Command.Dispatch
import NoteSieve.Proofs.CommandLine.Front

/-!
# How results are presented

Results can be asked for as documents, without color, or not at all unless something is wrong. None
of this changes what a run does. Two runs of one command line, the second one with such a switch
added, go through the same steps: they look at the same files, change the same places and fail with
the same error, and where they print they print the same result in another way
(`NoteSieve.CommandLine.alike_perform`). With the switch for errors only the second one prints
what the first one does, or nothing, and never nothing in place of a document
(`NoteSieve.Switch.Presents`).

Since a switch in front of the arguments is one that is added to the command line
(`NoteSieve.CommandLine.alike_ofArguments`), the same is true of **runs with arguments, where the
second one has the switch in front** (`NoteSieve.CommandLine.respond_presentation`).
-/

namespace NoteSieve

variable {s : Switch} {ctx : Context} {document : Prop} {disk : Disk}

/-! ### What is printed -/

/-- **What a switch makes of what is printed.** Without results nothing is printed in place of them,
but a document is printed nevertheless. -/
structure Switch.Presents (s : Switch) (document : Prop) (plain shown : Text) : Prop where
  /-- Asking for errors only changes nothing, or silences the run. -/
  eq_or_nil : s = .quiet → shown = plain ∨ shown = []
  /-- Asking for errors only does not silence a document. -/
  eq_of_document : s = .quiet → document → shown = plain

theorem Switch.Presents.refl (s : Switch) (document : Prop) (printed : Text) :
    s.Presents document printed printed :=
  ⟨fun _ => .inl rfl, fun _ _ => rfl⟩

/-- A context with a switch for the presentation added. -/
def Context.adding (ctx : Context) (s : Switch) : Context :=
  { ctx with
    json := s == .json || ctx.json
    color := s != .noColor && ctx.color
    quiet := s == .quiet || ctx.quiet }

theorem Context.of_adding (env : Environment) (line : CommandLine) (config : Config) (s : Switch) :
    Context.of env (line.adding s) config = (Context.of env line config).adding s := by
  simp [of, adding, CommandLine.adding, Bool.and_assoc, bne]

/-- A result is printed in another way, though in none if errors only are asked for. -/
theorem Context.presents_print (hdocument : document → ctx.json = true) (value : Json)
    {plain shown : Text} (htable : s = .quiet → shown = plain) :
    s.Presents document (ctx.print value plain) ((ctx.adding s).print value shown) := by
  by_cases hs : s = .quiet
  · obtain rfl := htable hs
    subst hs
    -- Where documents are printed, asking for errors only is not looked at.
    cases hjson : ctx.json with
    | true => simp [print, adding, hjson, Switch.Presents.refl]
    | false =>
      have hnone : ¬document := fun h => absurd (hdocument h) (by simp [hjson])
      refine ⟨fun _ => .inr ?_, fun _ h => absurd h hnone⟩
      simp [print, adding, hjson]
  · exact ⟨fun h => absurd h hs, fun h => absurd h hs⟩

/-! ### Two runs side by side -/

/-- **Two runs are alike**: they change the same, and both fail with the same error or both print
something, the second one in the way that the switch asks for. -/
inductive Switch.RunAlike (s : Switch) (document : Prop) :
    List Disk.Change × Except CommandError Text → List Disk.Change × Except CommandError Text → Prop
  /-- Both print something. -/
  | printed (changes : List Disk.Change) {plain shown : Text}
      (h : s.Presents document plain shown) :
      RunAlike s document (changes, .ok plain) (changes, .ok shown)
  /-- Both fail. -/
  | failed (changes : List Disk.Change) (e : CommandError) :
      RunAlike s document (changes, .error e) (changes, .error e)

/-- A run that does not go by the switch. -/
theorem Switch.RunAlike.refl (s : Switch) (document : Prop)
    (r : List Disk.Change × Except CommandError Text) : s.RunAlike document r r := by
  obtain ⟨changes, printed | e⟩ := r
  · exact .failed changes _
  · exact .printed changes (.refl s document _)

theorem Context.alike_searchNotes (hdocument : document → ctx.json = true) (file query : Text)
    (options : NoteOptions) (limit : Option Nat) :
    s.RunAlike document ([], searchNotes ctx disk file query options limit)
      ([], searchNotes (ctx.adding s) disk file query options limit) := by
  rw [searchNotes, searchNotes]
  cases loadNotes disk file with
  | error e => exact .failed [] _
  | ok notes =>
    refine .printed [] (presents_print hdocument _ ?_)
    rintro rfl
    rfl

theorem Context.alike_suggestTags (hdocument : document → ctx.json = true) (file query : Text)
    (limit : Option Nat) :
    s.RunAlike document ([], suggestTags ctx disk file query limit)
      ([], suggestTags (ctx.adding s) disk file query limit) := by
  rw [suggestTags, suggestTags]
  cases loadTags disk file with
  | error e => exact .failed [] _
  | ok tags =>
    refine .printed [] (presents_print hdocument _ ?_)
    rintro rfl
    rfl

theorem Context.alike_changeSetting (hdocument : document → ctx.json = true)
    (path key value : Text) :
    s.RunAlike document (changeSetting ctx disk path key value)
      (changeSetting (ctx.adding s) disk path key value) := by
  rw [changeSetting, changeSetting]
  rcases Config.update disk path key value with ⟨changes, e | -⟩
  · exact .failed changes _
  · exact .printed changes (presents_print hdocument _ fun _ => rfl)

/-- The path of the configuration is printed alike, whether or not errors only are asked for. -/
theorem presents_printConfigPath (json : Bool) (path : Text) :
    s.Presents document (printConfigPath json disk path)
      (printConfigPath (s == .json || json) disk path) := by
  refine ⟨?_, ?_⟩
  · rintro rfl
    exact .inl rfl
  · rintro rfl -
    rfl

/-- **A command that goes by the configuration.** -/
theorem Command.alike_perform (hdocument : document → ctx.json = true) (path : Text)
    (current : Config) (command : Command) :
    s.RunAlike document (command.perform ctx disk path current)
      (command.perform (ctx.adding s) disk path current) := by
  have hview : s.Presents document (viewConfig ctx disk path current)
      (viewConfig (ctx.adding s) disk path current) :=
    Context.presents_print hdocument _ (by rintro rfl; rfl)
  rcases command with _ | _ | query | ⟨query, word, asTag⟩ | (_ | _ | _ | _) | shell
  · exact ctx.alike_searchNotes hdocument ..
  · exact ctx.alike_suggestTags hdocument ..
  · exact .printed [] (Context.presents_print hdocument _ (by rintro rfl; rfl))
  · exact .printed [] (Context.presents_print hdocument _ fun _ => rfl)
  · exact .printed [] hview
  · exact .printed [] hview
  · exact ctx.alike_changeSetting hdocument ..
  · exact .printed [] (presents_printConfigPath ctx.json path)
  · exact .refl s document _

namespace CommandLine

variable {line : CommandLine} {env : Environment}

/-- A document is asked for, and there is a command to print one. -/
def PrintsDocument (line : CommandLine) : Prop := line.json = true ∧ line.command ≠ none

/-- A run that does without the configuration. -/
theorem IsSelfContained.alike_perform (hline : line.IsSelfContained) (env : Environment)
    (disk : Disk) (s : Switch) :
    s.RunAlike line.PrintsDocument (line.perform env disk)
      ((line.adding s).perform env disk) := by
  have hcommand : (line.adding s).command = line.command := rfl
  have hpath : (line.adding s).configPath env = line.configPath env := rfl
  rw [perform, perform, hcommand, hpath]
  rcases hline with hnone | ⟨shell, hshell⟩ | hconfig
  · rw [hnone]
    refine .printed [] ⟨?_, fun _ h => absurd hnone h.2⟩
    rintro rfl
    exact .inr rfl
  · rw [hshell]
    exact .refl s _ _
  · rw [hconfig]
    cases line.configPath env with
    | error e => exact .failed [] e
    | ok path => exact .printed [] (presents_printConfigPath line.json path)

/-- **A command line with a switch for the presentation added** runs alike. -/
theorem alike_perform (env : Environment) (disk : Disk) (line : CommandLine) (s : Switch) :
    s.RunAlike line.PrintsDocument (line.perform env disk)
      ((line.adding s).perform env disk) := by
  by_cases hline : line.IsSelfContained
  · exact hline.alike_perform env disk s
  -- The configuration is loaded alike on both sides, before the switch is looked at.
  · obtain ⟨command, hcommand⟩ := exists_command hline
    have hpath : (line.adding s).configPath env = line.configPath env := rfl
    rw [perform_eq hline hcommand, @perform_eq (line.adding s) command hline hcommand, hpath]
    simp only [Context.of_adding]
    cases line.configPath env with
    | error e => exact .failed [] e
    | ok path =>
      dsimp only
      cases Config.load disk path with
      | error e => exact .failed [] _
      | ok config =>
        have hdocument : line.PrintsDocument → (Context.of env line config).json = true := And.left
        exact Command.alike_perform hdocument path config command

end CommandLine

/-! ### Outcomes side by side -/

/-- **What a switch for the presentation leaves as it is**: the exit code, and the disk with the
content of every file. On standard output it makes of the result what it asks for. -/
structure Switch.Keeps (s : Switch) (document : Prop) (disk : Disk) (plain shown : Outcome) :
    Prop where
  /-- The exit code is the same. -/
  exitCode_eq : shown.exitCode = plain.exitCode
  /-- The disk is the same afterwards. -/
  apply_eq : disk.apply shown.changes = disk.apply plain.changes
  /-- The result is presented in the way that is asked for. -/
  presents : s.Presents document plain.stdout shown.stdout

theorem Switch.RunAlike.keeps {r r' : List Disk.Change × Except CommandError Text}
    (h : s.RunAlike document r r') (disk : Disk) (complaints : Complaints) (json json' : Bool) :
    s.Keeps document disk (.ofCommand complaints json r.1 r.2)
      (.ofCommand complaints json' r'.1 r'.2) := by
  cases h with
  | printed changes h => exact ⟨rfl, rfl, h⟩
  | failed changes e => exact ⟨rfl, rfl, .refl s document []⟩

namespace CommandLine

/-- **Results do not depend on how they are presented.** A switch for the presentation that is added
to a command line changes neither the exit code nor what any file holds after the run. If it asks
for errors only, the run prints what it does without it, or nothing, and what it does without it
wherever documents are asked for and there is a command. The same is true of a switch that is put in
front of the arguments, whatever they are, unless they name it again, or ask for more output where
it asks for less, and it is refused. -/
theorem respond_presentation (env : Environment) (disk : Disk) (hs : s.IsPresentation) :
    (∀ line : CommandLine, s.Keeps line.PrintsDocument disk (line.run env disk)
      ((line.adding s).run env disk)) ∧
    ∀ arguments : List Text,
      s.Keeps (∃ line, ofArguments env.configFile arguments = .ok line ∧ line.PrintsDocument) disk
          (respond env disk arguments) (respond env disk (s.typed :: arguments)) ∨
        ∃ cause, s.IsRefused (fun t => ∃ a ∈ arguments, t.IsNamedBy a) cause ∧
          respond env disk (s.typed :: arguments) = .ofHalt (.error cause) := by
  have hrun (line : CommandLine) : s.Keeps line.PrintsDocument disk (line.run env disk)
      ((line.adding s).run env disk) := (line.alike_perform env disk s).keeps disk ..
  refine ⟨hrun, fun arguments => ?_⟩
  have hread := alike_ofArguments hs env.configFile arguments
  rw [respond, respond]
  generalize ofArguments env.configFile arguments = x,
    ofArguments env.configFile (s.typed :: arguments) = y at hread ⊢
  -- A line that is read has the switch added to it; a halt is answered without it.
  cases hread with
  | @ok line _ h =>
    subst h
    obtain ⟨hexit, happly, hquiet, hdocument⟩ := hrun line
    refine .inl ⟨hexit, happly, hquiet, fun hs hline => hdocument hs ?_⟩
    obtain ⟨line', hline, hprints⟩ := hline
    exact Except.ok.inj hline ▸ hprints
  | halt halt => exact .inl ⟨rfl, rfl, .refl s _ _⟩
  | refused h => exact .inr ⟨_, h, rfl⟩

/-- A setting is changed, and with errors only nothing is told of it. -/
theorem respond_presentation_set :
    let env : Environment := ⟨some ['c'], none, none, none, false, .plain⟩
    let disk : Disk := .ofEntries fun _ => none
    let arguments := ["config".toList, "set".toList, "output.color".toList, "on".toList]
    let plain := respond env disk arguments
    let shown := respond env disk ("--quiet".toList :: arguments)
    Switch.quiet.IsPresentation ∧ plain.exitCode = 0 ∧ shown.exitCode = 0 ∧
      (disk.apply plain.changes).contentAt? [['c']] ≠ none ∧
      (disk.apply shown.changes).contentAt? [['c']]
        = (disk.apply plain.changes).contentAt? [['c']] ∧
      plain.stdout = "Set output.color = on\n".toList ∧ shown.stdout = [] := by
  intro env disk arguments plain shown
  have hquiet : Switch.quiet.IsPresentation := .inr (.inr rfl)
  have hplain : plain.exitCode = 0 := by decide
  have hdash : ∀ a ∈ arguments, a.head? ≠ some '-' := by decide
  rcases (respond_presentation env disk hquiet).2 arguments with hkeeps | ⟨_, hrefused, -⟩
  · exact ⟨hquiet, hplain, hkeeps.exitCode_eq.trans hplain, by decide,
      congrArg (Disk.contentAt? · [['c']]) hkeeps.apply_eq, by decide, by decide⟩
  · obtain ⟨a, ha, hnamed⟩ | ⟨-, a, ha, hnamed⟩ := hrefused
    · exact absurd hnamed.head?_eq (hdash a ha)
    · exact absurd hnamed.head?_eq (hdash a ha)

end CommandLine

end NoteSieve
