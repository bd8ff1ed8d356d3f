import NoteSieve.Output.Document
import NoteSieve.Proofs.Json.Written
import NoteSieve.Proofs.Record.Forms

/-!
# Exported notes can be loaded

The document of a search holds its notes in one of the forms in which notes are loaded
(`NoteSieve.Note.form_toJson`): a key that a note does not have is left out, and any other missing
text is `null`, which an empty one is not. So a note is read back from what is written of it
(`NoteSieve.Note.ofJson?_toJson`), and **the array of the notes, cut out of the document and put in
a file, is loaded as the notes that were exported** (`NoteSieve.loadNotes_notesDocument`).
-/

namespace NoteSieve

open Json

variable {notes : List Note} {total : Nat} {filter : Text}

/-! ### One note -/

theorem Json.textForm_map_ofText (s : Option Text) : TextForm (s.map ofText) s := by
  cases s with
  | none => exact .leftOut
  | some s => exact .text s

theorem Json.textForm_ofText? (s : Option Text) : TextForm (some (ofText? s)) s := by
  cases s with
  | none => exact .null
  | some s => exact .text s

/-- **A note is written in one of its forms.** -/
theorem Note.form_toJson (n : Note) : Form n.toJson n := by
  refine ⟨n.id.map ofText, some (ofText? n.content), some (.bool n.deleted),
    some (ofText? n.systemTags), some (ofText? n.tags), ?_, textForm_map_ofText _,
    textForm_ofText? _, .written _, textForm_ofText? _, textForm_ofText? _⟩
  refine @HasFields.object _ _ _ [] rfl (List.forall_mem_nil _) ?_
  cases n.id <;> exact List.Perm.refl _

/-- **A note is read back from what is written of it.** -/
theorem Note.ofJson?_toJson (n : Note) : ofJson? n.toJson = some n :=
  ofJson?_eq_some_iff.mpr n.form_toJson

/-! ### Lists of records -/

/-- Records that are read back one by one are read back from an array. -/
theorem Json.records?_map {α : Type} {read : Json → Option α} {write : α → Json}
    (h : ∀ a, read (write a) = some a) (as : List α) :
    records? read (.array (as.map write)) = some as := by
  rw [records?, mapM_eq_some_iff Iff.rfl, List.forall₂_map_left_iff, List.forall₂_same]
  exact fun a _ => h a

theorem parseRecords_of_read? {α : Type} {read : Json → Option α} {write : α → Json}
    (h : ∀ a, read (write a) = some a) {as : List α} {s : Text}
    (hs : read? s = some (.array (as.map write))) : parseRecords read s = some as := by
  rw [parseRecords, hs, Option.bind_some, records?_map h]

/-! ### The document of a search -/

theorem Json.IsNatural.ofText? (s : Option Text) : IsNatural (Json.ofText? s) := by
  cases s with
  | none => exact IsNatural.null
  | some s => exact IsNatural.string _

theorem Json.IsNatural.ofMembers {members : List (Text × Json)}
    (h : ∀ m ∈ members, IsNatural m.2) : IsNatural (.ofMembers members) :=
  IsNatural.object (List.forall_mem_map.mpr h)

theorem Note.isNatural_toJson (n : Note) : n.toJson.IsNatural := by
  have hid : ∀ m ∈ (n.id.map fun id => ("id".toList, Json.ofText id)).toList, IsNatural m.2 := by
    cases n.id with
    | none => exact List.forall_mem_nil _
    | some id => exact List.forall_mem_singleton.mpr (IsNatural.string _)
  refine IsNatural.ofMembers (List.forall_mem_append.mpr ⟨hid, ?_⟩)
  simp only [List.forall_mem_cons]
  exact ⟨IsNatural.ofText? _, IsNatural.bool _, IsNatural.ofText? _, IsNatural.ofText? _,
    List.forall_mem_nil _⟩

theorem isNatural_notesArray (notes : List Note) :
    IsNatural (.array (notes.map Note.toJson)) :=
  IsNatural.array (List.forall_mem_map.mpr fun n _ => n.isNatural_toJson)

theorem isNatural_notesDocument (notes : List Note) (total : Nat) (filter : Text) :
    (notesDocument notes total filter).IsNatural := by
  refine IsNatural.ofMembers ?_
  simp only [List.forall_mem_cons]
  exact ⟨IsNatural.string _, IsNatural.number total, isNatural_notesArray notes,
    List.forall_mem_nil _⟩

/-- The text of the notes in a document, as they stand there. -/
def notesArray (notes : List Note) : Text := writeAt 1 (.array (notes.map Note.toJson))

/-- What stands in front of the notes in a document. -/
def beforeNotes (total : Nat) (filter : Text) : Text :=
  "\x7b\n  \"filter\": ".toList ++ (writeText filter ++ (",\n  \"total\": ".toList
    ++ (Text.ofNat total ++ ",\n  \"notes\": ".toList)))

/-- **The notes are cut out of the document** by cutting off what stands around them. -/
theorem write_notesDocument (notes : List Note) (total : Nat) (filter : Text) :
    (notesDocument notes total filter).write
      = beforeNotes total filter ++ (notesArray notes ++ "\n\x7d".toList) := by
  have hkey : ∀ key : Text, writeString (some key) = writeText key := fun _ => rfl
  unfold beforeNotes
  simp only [write, notesDocument, Json.ofMembers, List.map_cons, List.map_nil, Json.ofText,
    Json.ofNat, writeAt, writeMembers, hkey, notesArray, List.append_assoc, List.append_nil]
  rfl

/-- **Exported notes survive their own export.** The document is read back with the filter and the
total that were given. The array of the notes as it stands in the document, between a front and a
back that do not depend on the notes, is read as the same value as the document's member; and
wherever a file is read as just this array, the notes that are loaded from it are exactly the notes
that were exported. -/
theorem loadNotes_notesDocument (notes : List Note) (total : Nat) (filter : Text) :
    (∃ spelling, read? (notesDocument notes total filter).write = some (.ofMembers
        [("filter".toList, .ofText filter), ("total".toList, .number spelling),
          ("notes".toList, .array (notes.map Note.toJson))]) ∧
      Text.digits? 10 spelling = some total) ∧
    (notesDocument notes total filter).write
      = beforeNotes total filter ++ (notesArray notes ++ "\n\x7d".toList) ∧
    read? (notesArray notes) = some (.array (notes.map Note.toJson)) ∧
    ∀ (disk : Disk) (path : Text), disk.readText path = .ok (notesArray notes) →
      loadNotes disk path = .ok notes := by
  have hdocument := (isNatural_notesDocument notes total filter).read?_writeAt 0
  have harray := (isNatural_notesArray notes).read?_writeAt 1
  refine ⟨⟨Text.ofNat total, hdocument, Text.digits?_ofNat total⟩,
    write_notesDocument notes total filter, harray, fun disk path h => ?_⟩
  exact (loadRecords_eq_ok_iff _ h).mpr (parseRecords_of_read? Note.ofJson?_toJson harray)

/-- A note without a key, with an empty text and one that is missing, and with quotes, backslashes
and controls in its content, is loaded from a file. -/
theorem loadNotes_notesDocument_controls :
    let n : Note := ⟨none, some "\"[\\u0041\x01\x7f]\"\n".toList, true, none, some []⟩
    let disk : Disk := .ofEntries fun _ => some (.file (.text (notesArray [n])))
    disk.readText "a".toList = .ok (notesArray [n]) ∧
      loadNotes disk "a".toList = .ok [n] := by
  intro n disk
  have hread : disk.readText "a".toList = .ok (notesArray [n]) := rfl
  obtain ⟨-, -, -, hload⟩ := loadNotes_notesDocument [n] 1 []
  exact ⟨hread, hload disk _ hread⟩

end NoteSieve
