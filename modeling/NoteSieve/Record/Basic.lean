import NoteSieve.Text.Basic

/-!
# Notes and tags

The two kinds of records that a search runs over, and the fields that a filter can look at. A note
keeps its tags as the storage layer writes them: one text that holds a JSON array of names. A field
that a record does not have is told apart from an empty one.

A filter sees a record only through `Searchable`: the text of a text field, and the value of a flag.
-/

namespace NoteSieve

/-! ### The records -/

/-- The kinds of records. -/
inductive RecordKind where
  | notes
  | tags
  deriving DecidableEq, Repr

/-- A note as exported. -/
structure Note where
  /-- The key of the note in its store. -/
  id : Option Text
  /-- The body, whose first line is the title. -/
  content : Option Text
  /-- Whether the note is in the trash. -/
  deleted : Bool
  /-- Internal markers such as `pinned`. -/
  systemTags : Option Text
  /-- The user's tags, as the text of a JSON array. -/
  tags : Option Text
  deriving DecidableEq, Repr

/-- A tag as exported. -/
structure Tag where
  /-- The name of the tag. -/
  name : Option Text
  deriving DecidableEq, Repr

/-- The first line of the content; a note without content has an empty title. -/
def Note.title (n : Note) : Text := (n.content.getD []).firstLine

/-! ### The fields -/

/-- The fields of a note. -/
inductive NoteField where
  | content
  | deleted
  | systemTags
  | tags
  deriving DecidableEq, Repr

/-- The only field of a tag. -/
inductive TagField where
  | name
  deriving DecidableEq, Repr

/-- Fields have a name, under which a filter shows them. -/
class Named (F : Type) where
  /-- The name of a field, as a store spells it. -/
  fieldName : F → Text

instance : Named NoteField where
  fieldName
    | .content => "content".toList
    | .deleted => "deleted".toList
    | .systemTags => "system_tags".toList
    | .tags => "tags".toList

instance : Named TagField where
  fieldName
    | .name => "name".toList

/-- Records that have the fields `F`. -/
class Searchable (R : Type) (F : outParam Type) where
  /-- The text of a field. A field that is missing or holds no text has none. -/
  text? : R → F → Option Text
  /-- The value of a flag. A field that is no flag has none. -/
  flag? : R → F → Option Bool

instance : Searchable Note NoteField where
  text? n
    | .content => n.content
    | .deleted => none
    | .systemTags => n.systemTags
    | .tags => n.tags
  flag? n
    | .deleted => some n.deleted
    | _ => none

instance : Searchable Tag TagField where
  text? t
    | .name => t.name
  flag? _ _ := none

end NoteSieve
