import NoteSieve.Text.Basic

/-!
# JSON values

A value as its text spells it. Nothing is decided here that the grammar leaves open: a number keeps
its spelling, an object keeps its members in order and repeated, and a string may be one that has no
text, because it escapes half of a surrogate pair. Whoever reads a value decides what of this is an
error.
-/

namespace NoteSieve

namespace Json

/-- The text of a JSON string, if it has one. A string that escapes half of a surrogate pair is well
formed and has none. -/
abbrev StringText : Type := Option Text

end Json

/-- A JSON value. -/
inductive Json where
  /-- The literal `null`. -/
  | null
  /-- The literal `true` or `false`. -/
  | bool (value : Bool)
  /-- A number as it is spelled. -/
  | number (spelling : Text)
  /-- A string. -/
  | string (value : Json.StringText)
  /-- The elements of an array. -/
  | array (elements : List Json)
  /-- The members of an object, in order. -/
  | object (members : List (Json.StringText × Json))
  deriving Repr

namespace Json

/-- The string with a given text. -/
def ofText (s : Text) : Json := .string (some s)

/-- A text or `null`. -/
def ofText? : Option Text → Json
  | some s => ofText s
  | none => .null

/-- A number. -/
def ofNat (n : Nat) : Json := .number (Text.ofNat n)

/-- An object with the given keys. -/
def ofMembers (members : List (Text × Json)) : Json :=
  .object (members.map fun m => (some m.1, m.2))

/-- The text of a value that is a string with a text. -/
def text? : Json → Option Text
  | .string s => s
  | _ => none

/-- The texts of a value that is an array of strings. -/
def texts? : Json → Option (List Text)
  | .array elements => elements.mapM text?
  | _ => none

end Json

end NoteSieve
