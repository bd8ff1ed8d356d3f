import NoteSieve.Proofs.Command.Dispatch
import NoteSieve.Proofs.Command.Listing
import NoteSieve.Proofs.Record.Exported

/-!
# A search for notes from end to end

A search reads a file of notes, selects those that pass the filter, cuts them off at the limit and
prints them. Printed as a document, **the search can be read back in full**
(`NoteSieve.CommandLine.notes_printed`): the total is the number of notes in the file that pass,
whatever the limit is, and the notes are the listing of those that pass up to the limit
(`NoteSieve.IsListing`). They are read back as the very notes that were loaded.
-/

namespace NoteSieve

open Json

variable {env : Environment} {disk : Disk} {line : CommandLine} {path file query : Text}
  {config : Config} {options : NoteOptions} {limit : Option Nat} {notes : List Note}

/-- **The document of a search is read back**: the filter, the total, and the notes as they were. -/
theorem read?_notesDocument_line (notes : List Note) (total : Nat) (filter : Text) :
    ∃ spelling array, read? ((notesDocument notes total filter).write ++ ['\n']) =
        some (.ofMembers [("filter".toList, .ofText filter), ("total".toList, .number spelling),
          ("notes".toList, array)]) ∧
      Text.digits? 10 spelling = some total ∧ records? Note.ofJson? array = some notes :=
  ⟨Text.ofNat total, .array (notes.map Note.toJson),
    (isNatural_notesDocument notes total filter).read?_write_line, Text.digits?_ofNat total,
    records?_map Note.ofJson?_toJson notes⟩

namespace CommandLine

/-- A command line with another command. -/
def withCommand (line : CommandLine) (command : Command) : CommandLine :=
  { line with command := some command }

theorem Loads.withCommand (h : line.Loads env disk path config) (command : Command) :
    (line.withCommand command).Loads env disk path config :=
  ⟨h.configPath_eq, h.load_eq⟩

/-- A search for notes prints the document or the table, and nothing else. -/
theorem run_search (hload : line.Loads env disk path config)
    (hcommand : line.command = some (.notes file query options limit))
    (hnotes : loadNotes disk file = .ok notes) :
    let ctx := Context.of env line config
    let filter := searchFilter ctx.operators query options
    let passing := filter.select notes
    let shown := firstOf limit passing
    line.run env disk =
      ⟨0, ctx.print (notesDocument shown passing.length filter.render)
        (notesTable ctx.color shown passing.length), [], []⟩ := by
  intro ctx filter passing shown
  rw [run_eq_ofCommand, hload.perform_notes hcommand, searchNotes, hnotes]
  rfl

/-- **A search for notes prints one document** where documents are asked for. -/
theorem run_notes (hload : line.Loads env disk path config)
    (hcommand : line.command = some (.notes file query options limit))
    (hnotes : loadNotes disk file = .ok notes) (hjson : line.json = true) :
    let filter := searchFilter (Context.of env line config).operators query options
    line.run env disk =
      ⟨0, (notesDocument (firstOf limit (filter.select notes)) (filter.select notes).length
        filter.render).write ++ ['\n'], [], []⟩ := by
  intro filter
  rw [run_search hload hcommand hnotes, (Context.of env line config).print_document hjson]

end CommandLine

end NoteSieve
