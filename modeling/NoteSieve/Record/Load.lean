import NoteSieve.Disk.Basic
import NoteSieve.Json.Reader
import NoteSieve.Record.Json

/-!
# Loading records

A file of records is one JSON array. It is loaded as a whole or not at all. A text that holds no
such records is kept with the error, which passes on what is complained of in it.
-/

namespace NoteSieve

/-- Why records cannot be loaded. -/
inductive LoadError where
  /-- Their file cannot be read. -/
  | unreadable (path : Text) (cause : DiskError)
  /-- Their file holds a text that is no array of such records. -/
  | malformed (kind : RecordKind) (s : Text)
  deriving DecidableEq, Repr

/-- The records that a text holds. -/
def parseRecords {α : Type} (read : Json → Option α) (s : Text) : Option (List α) :=
  (Json.read? s).bind (Json.records? read)

/-- Loads the records of a kind at a path. -/
def loadRecords {α : Type} (kind : RecordKind) (read : Json → Option α) (disk : Disk)
    (path : Text) : Except LoadError (List α) :=
  match disk.readText path with
  | .error e => .error (.unreadable path e)
  | .ok s =>
    match parseRecords read s with
    | some records => .ok records
    | none => .error (.malformed kind s)

/-- **Loads the notes at a path.** -/
def loadNotes : Disk → Text → Except LoadError (List Note) := loadRecords .notes Note.ofJson?

/-- **Loads the tags at a path.** -/
def loadTags : Disk → Text → Except LoadError (List Tag) := loadRecords .tags Tag.ofJson?

end NoteSieve
