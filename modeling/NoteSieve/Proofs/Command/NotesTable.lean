import NoteSieve.Proofs.Command.Notes
import NoteSieve.Proofs.Output.Rows

/-!
# What the table tells of a limit

A search cuts the notes that pass off at its limit. Its table has two ways to tell a reader what
became of them: a notice in place of the rows if there is none to show, and a footer with two
numbers if there are fewer than pass. The numbers go their own ways from the search to the table,
and the notice goes by the lower one only. So **a limit of zero hides what it leaves out**: the
table tells that there is no note, and nothing else, however many pass.

At every other limit the table tells what it is to tell
(`NoteSieve.CommandLine.notesTable_printed_iff`), but for one thing. A table without a footer ends
in the row of a note, and this may spell the words of the footer (`NoteSieve.SpellsFooter`). In
color it cannot, as it ends in a code then.
-/

namespace NoteSieve

open Text

variable {color : Bool} {notes : List Note} {shown total : Nat}

/-! ### The footer -/

theorem getLast?_footerLine (shown total : Nat) :
    (footerLine shown total).getLast? = some 'n' := by
  rw [footerLine, List.getLast?_append_of_ne_nil _ (by decide)]
  rfl

theorem getLast?_of_footerLine_isSuffix {s : Text} (h : footerLine shown total <:+ s) :
    s.getLast? = some 'n' := by
  obtain ⟨front, rfl⟩ := h
  rw [List.getLast?_append, getLast?_footerLine, Option.some_or]

/-! ### The last line of a table -/

/-- The row of the last note ends in the line of a footer, by the way its cells are spelled. -/
def SpellsFooter (color : Bool) (notes : List Note) (total : Nat) : Prop :=
  color = false ∧ ∃ n, notes.getLast? = some n ∧
    (lines (n.row false)).getLast? = some (footerLine notes.length total)

theorem SpellsFooter.ne_nil (h : SpellsFooter color notes total) : notes ≠ [] := by
  obtain ⟨-, n, hn, -⟩ := h
  rintro rfl
  exact absurd hn (by simp)

/-- The row of a note in color does not end in a footer. -/
theorem Note.getLast?_lines_row_colored (n : Note) :
    (lines (n.row true)).getLast? ≠ some (footerLine shown total) := fun h => by
  have hrow : (n.row true).getLast? = some 'm' := by
    simp [row_colored, joinWith_three, List.getLast?_append, List.getLast?_cons, getLast?_paint]
  rw [getLast?_of_footerLine_isSuffix (isSuffix_of_getLast?_lines h)] at hrow
  exact absurd hrow (by decide)

/-- **When the table tells that there is no note**: there is none to show. -/
theorem notesTable_eq_noNotesNotice_iff :
    notesTable color notes total = noNotesNotice ↔ notes = [] := by
  rw [notesTable_eq]
  split
  · next h => simp [h]
  · next h =>
    rw [noNotesNotice, unlines_eq_iff (by decide)]
    simp [h]

/-- The table of some notes ends in the footer, or else in the row of the last of them. -/
theorem lastLine?_notesTable (h : notes ≠ []) : lastLine? (notesTable color notes total) =
    if notes.length < total then some (footerLine notes.length total)
      else notes.getLast?.bind fun n => (lines (n.row color)).getLast? := by
  rw [notesTable_eq, if_neg h, notesFooter_eq]
  split
  · have hfooter : lines (footerLine notes.length total) = [footerLine notes.length total] :=
      lines_eq_singleton (not_mem_footerLine (by decide) (by decide) _ _)
    rw [← List.singleton_append (l := [footerLine _ _]), ← List.append_assoc,
      lastLine?_unlines_concat, hfooter]
    rfl
  · obtain ⟨front, n, rfl⟩ := (List.eq_nil_or_concat' notes).resolve_left h
    rw [List.append_nil, List.map_append, List.map_singleton, ← List.cons_append,
      lastLine?_unlines_concat, List.getLast?_concat, Option.bind_some]

/-- **When the table ends in a footer**: there are notes to show, but fewer than there are, or the
last of them spells one. -/
theorem lastLine?_notesTable_eq_iff :
    lastLine? (notesTable color notes total) = some (footerLine notes.length total) ↔
      (notes ≠ [] ∧ notes.length < total) ∨ SpellsFooter color notes total := by
  by_cases h : notes = []
  · have hnotice : lastLine? noNotesNotice = some "No notes found.".toList := by decide
    rw [notesTable_eq, if_pos h, hnotice]
    refine iff_of_false (fun heq => ?_) fun hfooter => ?_
    · have hlast := congrArg List.getLast? (Option.some.inj heq)
      rw [getLast?_footerLine] at hlast
      exact absurd hlast (by decide)
    · exact hfooter.elim (fun hshown => hshown.1 h) fun hspells => hspells.ne_nil h
  · rw [lastLine?_notesTable h]
    split
    · next hlt => simp [h, hlt]
    · next hlt =>
      rw [Option.bind_eq_some_iff, SpellsFooter]
      cases color with
      | false => simp [hlt]
      | true => simp [hlt, Note.getLast?_lines_row_colored]

/-- Ten notes may look like a footer that tells of them. -/
example : SpellsFooter false
    (List.replicate 10 ⟨some "10 of 10".toList, some "notes shown".toList, false, none, none⟩) 10 :=
  ⟨rfl, _, rfl, by decide⟩

/-! ### A run -/

namespace CommandLine

variable {env : Environment} {disk : Disk} {line : CommandLine} {path file query : Text}
  {config : Config} {options : NoteOptions} {limit : Option Nat}

/-- **What the table of a search tells**, given a configuration and a file of notes that can be
loaded. The run prints the table of the notes that pass up to the limit, and nothing else. That is
the notice that there is no note exactly if none is shown, and it ends in the footer exactly if some
are shown but not all that pass, or the last row spells the footer. That there is no note is told
exactly if none passes, unless the limit is zero and some pass. That not all are shown is told
exactly if they are not, with the same exception, and unless all are shown and the last row spells
the footer. -/
theorem notesTable_printed_iff (hload : line.Loads env disk path config)
    (hcommand : line.command = some (.notes file query options limit))
    (hnotes : loadNotes disk file = .ok notes) (hjson : line.json = false)
    (hquiet : line.quiet = false) :
    let ctx := Context.of env line config
    let filter := searchFilter ctx.operators query options
    let total := notes.countP fun n => filter.holds n
    let count := min (limit.getD total) total
    let shown := firstOf limit (filter.select notes)
    let outcome := line.run env disk
    let saysNone := outcome.stdout = noNotesNotice
    let saysFewer := lastLine? outcome.stdout = some (footerLine count total)
    (outcome.exitCode = 0 ∧ outcome.stderr = [] ∧ outcome.changes = []) ∧
    (outcome.stdout = notesTable ctx.color shown total ∧ shown.length = count) ∧
    (saysNone ↔ count = 0) ∧
    (saysFewer ↔ (0 < count ∧ count < total) ∨ SpellsFooter ctx.color shown total) ∧
    ((saysNone ↔ total = 0) ↔ ¬(limit = some 0 ∧ 0 < total)) ∧
    ((saysFewer ↔ count < total) ↔ ¬(limit = some 0 ∧ 0 < total) ∧
      ¬(count = total ∧ SpellsFooter ctx.color shown total)) := by
  intro ctx filter total count shown outcome saysNone saysFewer
  have hrun : outcome = _ := run_search hload hcommand hnotes
  have htotal : (filter.select notes).length = total := List.countP_eq_length_filter.symm
  have hcount : shown.length = count := by rw [length_firstOf, htotal]
  have htable : outcome.stdout = notesTable ctx.color shown total := by
    rw [hrun, ← htotal]
    exact ctx.print_table hjson hquiet _ _
  have hnil : shown = [] ↔ count = 0 := by rw [← hcount, List.length_eq_zero_iff]
  have hnone : saysNone ↔ count = 0 := by
    rw [← hnil, ← notesTable_eq_noNotesNotice_iff, ← htable]
  have hfewer : saysFewer ↔ (0 < count ∧ count < total) ∨ SpellsFooter ctx.color shown total := by
    rw [Nat.pos_iff_ne_zero, ne_eq, ← hnil, ← hcount, ← lastLine?_notesTable_eq_iff, ← htable,
      hcount]
  have hhides : limit = some 0 ∧ 0 < total ↔ count = 0 ∧ 0 < total := by
    refine and_congr_left fun htotal => ?_
    cases limit with
    | none => simp [count, htotal.ne']
    | some n => simp [count, htotal.ne']
  have hle : count ≤ total := Nat.min_le_right _ _
  refine ⟨by rw [hrun]; exact ⟨rfl, rfl, rfl⟩, ⟨htable, hcount⟩, hnone, hfewer, ?_, ?_⟩
  · rw [hnone, hhides]
    omega
  · rw [hfewer, hhides]
    by_cases hspells : SpellsFooter ctx.color shown total
    · have hpos : count ≠ 0 := fun hzero => hspells.ne_nil (hnil.mpr hzero)
      simp only [hspells, or_true, and_true, true_iff]
      omega
    · simp only [hspells, or_false, and_false, not_false_eq_true, and_true]
      omega

/-- Of three notes two have milk in them; with a limit of one the table ends in the footer. -/
theorem notesTable_printed_iff_milk :
    let notes : List Note := [⟨none, some "milk".toList, false, none, none⟩,
      ⟨none, none, false, none, none⟩, ⟨none, some "Milk".toList, false, none, none⟩]
    let env : Environment := ⟨none, none, none, none, false, .plain⟩
    let disk : Disk := .ofEntries fun p =>
      if p = [['n']] then some (.file (.text (notesArray notes))) else none
    let line : CommandLine := ⟨0, false, false, true, some ['c'], none, none,
      some (.notes ['n'] "milk".toList ⟨false, false, none, none, none, none⟩ (some 1))⟩
    loadNotes disk ['n'] = .ok notes ∧
    lastLine? (line.run env disk).stdout = some "1 of 2 notes shown".toList := by
  intro notes env disk line
  have hload : line.Loads env disk ['c'] .default := ⟨rfl, by decide⟩
  have hnotes : loadNotes disk ['n'] = .ok notes := by decide +kernel
  have htotal : notes.countP (fun n => (searchFilter (Context.of env line .default).operators
      "milk".toList ⟨false, false, none, none, none, none⟩).holds n) = 2 := by decide
  obtain ⟨-, -, -, hfewer, -⟩ := notesTable_printed_iff hload rfl hnotes rfl rfl
  rw [htotal] at hfewer
  exact ⟨hnotes, hfewer.mpr (.inl ⟨by decide, by decide⟩)⟩

/-- **The table may tell that there is no note where there is one**: with a limit of zero, and then
it does not tell that any is left out. -/
theorem notesTable_not_right :
    let note : Note := ⟨none, some "milk".toList, false, none, none⟩
    let options : NoteOptions := ⟨false, false, none, none, none, none⟩
    let env : Environment := ⟨none, none, none, none, false, .plain⟩
    let disk : Disk := .ofEntries fun p =>
      if p = [['n']] then some (.file (.text (notesArray [note]))) else none
    let line : CommandLine :=
      ⟨0, false, false, true, some ['c'], none, none, some (.notes ['n'] [] options (some 0))⟩
    loadNotes disk ['n'] = .ok [note] ∧
      [note].countP (fun n => (searchFilter .default [] options).holds n) = 1 ∧
      (line.run env disk).stdout = noNotesNotice ∧
      lastLine? (line.run env disk).stdout ≠ some "0 of 1 notes shown".toList := by
  decide

end CommandLine

end NoteSieve
