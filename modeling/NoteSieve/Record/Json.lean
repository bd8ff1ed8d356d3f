import NoteSieve.Json.Value
import NoteSieve.Query.Settings
import NoteSieve.Query.Token
import NoteSieve.Record.Basic

/-!
# Records in JSON

A record is written as an object. It is read from an object with its keys in any order, or from an
array of its fields in a fixed order. Fields that are missing take their default; keys of no field
are passed over, whatever their value; a key of a field that comes twice is refused, and so is a
key that has no text.
-/

namespace NoteSieve

namespace Json

/-! ### Fields of a record -/

/-- The values of all members with a key. -/
def valuesOf (key : Text) (members : List (StringText × Json)) : List Json :=
  (members.filter fun m => m.1 == some key).map Prod.snd

/-- Reads the value of a field, or takes the default where it is missing. A field that is there
twice is refused. -/
def field? {α : Type} (default : α) (read : Json → Option α) : List Json → Option α
  | [] => some default
  | [value] => read value
  | _ :: _ :: _ => none

/-- A text or `null`, where `null` is the same as nothing at all. -/
def nullableText? : Json → Option (Option Text)
  | .null => some none
  | .string (some s) => some (some s)
  | _ => none

/-- A truth value. -/
def bool? : Json → Option Bool
  | .bool value => some value
  | _ => none

/-- Gives out the fields of a record by their names. From an array, the fields are taken in the
order of the names, and there may be no more elements than names. -/
def fields? (names : List Text) : Json → Option (List (List Json))
  | .object members =>
    if members.all fun m => m.1.isSome then some (names.map (valuesOf · members)) else none
  | .array elements =>
    if elements.length ≤ names.length then
      some ((elements.map fun e => [e]) ++ List.replicate (names.length - elements.length) [])
    else none
  | _ => none

end Json

/-! ### Notes -/

namespace Note

/-- The names of the fields of a note, in the order in which an array gives them. -/
def fieldNames : List Text :=
  ["id".toList, "content".toList, "deleted".toList, "system_tags".toList, "tags".toList]

/-- **Reads a note.** -/
def ofJson? (value : Json) : Option Note :=
  match value.fields? fieldNames with
  | some [id, content, deleted, systemTags, tags] => do
    let id ← Json.field? none Json.nullableText? id
    let content ← Json.field? none Json.nullableText? content
    let deleted ← Json.field? false Json.bool? deleted
    let systemTags ← Json.field? none Json.nullableText? systemTags
    let tags ← Json.field? none Json.nullableText? tags
    return { id, content, deleted, systemTags, tags }
  | _ => none

/-- **Writes a note.** A note without a key has no member for it; other missing fields are
`null`. -/
def toJson (n : Note) : Json :=
  .ofMembers <|
    (n.id.map fun id => ("id".toList, Json.ofText id)).toList
      ++ [("content".toList, .ofText? n.content),
        ("deleted".toList, .bool n.deleted),
        ("system_tags".toList, .ofText? n.systemTags),
        ("tags".toList, .ofText? n.tags)]

end Note

/-! ### Tags -/

namespace Tag

/-- **Reads a tag.** -/
def ofJson? (value : Json) : Option Tag :=
  match value.fields? ["name".toList] with
  | some [name] => (Json.field? none Json.nullableText? name).map Tag.mk
  | _ => none

end Tag

/-! ### Tokens and operators -/

namespace Token

/-- **Reads a token**: an object whose only member is named for the kind of token and has its
text. -/
def ofJson? : Json → Option Token
  | .object [(some key, .string (some s))] =>
    if key = "keyword".toList then some (.keyword s)
    else if key = "tag".toList then some (.tag s)
    else none
  | _ => none

/-- **Writes a token.** -/
def toJson (t : Token) : Json := .ofMembers [(t.kind, .ofText t.text)]

end Token

namespace Operators

/-- The names of the operators, in the order in which an array gives them. -/
def fieldNames : List Text := ["tag_operator".toList, "localized_tag_operator".toList]

/-- **Reads the operators.** A missing one takes its default. -/
def ofJson? (value : Json) : Option Operators :=
  match value.fields? fieldNames with
  | some [primary, localized] => do
    let primary ← Json.field? defaultOperator Json.text? primary
    let localized ← Json.field? defaultOperator Json.text? localized
    return { primary, localized }
  | _ => none

end Operators

/-! ### Lists of records -/

/-- Reads an array of records. -/
def Json.records? {α : Type} (read : Json → Option α) : Json → Option (List α)
  | .array elements => elements.mapM read
  | _ => none

end NoteSieve
