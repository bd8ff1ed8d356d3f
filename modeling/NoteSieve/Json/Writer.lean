import NoteSieve.Json.Value

/-!
# Writing JSON

Values are written over several lines, each level two spaces further in, with a space after the
colon of a member; empty arrays and objects stay on their line. In a string only the quote, the
backslash and the controls below the space are escaped.
-/

namespace NoteSieve.Json

/-! ### Strings -/

/-- A number below 256 as two hexadecimal digits. -/
def twoHexDigits (n : Nat) : Text := [Nat.digitChar (n / 16), Nat.digitChar (n % 16)]

/-- A character as it is written inside a string. -/
def escapeChar (c : Char) : Text :=
  if c = '"' then ['\\', '"']
  else if c = '\\' then ['\\', '\\']
  else if c = '\x08' then ['\\', 'b']
  else if c = '\x0c' then ['\\', 'f']
  else if c = '\n' then ['\\', 'n']
  else if c = '\r' then ['\\', 'r']
  else if c = '\t' then ['\\', 't']
  else if c.toNat < 0x20 then ['\\', 'u', '0', '0'] ++ twoHexDigits c.toNat
  else [c]

/-- A text as a string, quotes included. -/
def writeText (s : Text) : Text := ['"'] ++ s.flatMap escapeChar ++ ['"']

/-- A string; one without a text is written as half of a surrogate pair. -/
def writeString : StringText → Text
  | some s => writeText s
  | none => "\"\\ud800\"".toList

/-! ### Values -/

/-- A new line, so many levels in. -/
def newLine (level : Nat) : Text := '\n' :: List.replicate (2 * level) ' '

mutual

/-- A value that begins so many levels in. -/
def writeAt (level : Nat) : Json → Text
  | .null => "null".toList
  | .bool value => Text.ofBool value
  | .number spelling => spelling
  | .string value => writeString value
  | .array [] => ['[', ']']
  | .array (element :: rest) =>
    ['['] ++ newLine (level + 1) ++ writeAt (level + 1) element ++ writeElements (level + 1) rest
      ++ newLine level ++ [']']
  | .object [] => ['\x7b', '\x7d']
  | .object ((key, value) :: rest) =>
    ['\x7b'] ++ newLine (level + 1) ++ writeString key ++ [':', ' '] ++ writeAt (level + 1) value
      ++ writeMembers (level + 1) rest ++ newLine level ++ ['\x7d']

/-- The elements of an array after the first, each behind a comma on a line of its own. -/
def writeElements (level : Nat) : List Json → Text
  | [] => []
  | element :: rest =>
    [','] ++ newLine level ++ writeAt level element ++ writeElements level rest

/-- The members of an object after the first, each behind a comma on a line of its own. -/
def writeMembers (level : Nat) : List (StringText × Json) → Text
  | [] => []
  | (key, value) :: rest =>
    [','] ++ newLine level ++ writeString key ++ [':', ' '] ++ writeAt level value
      ++ writeMembers level rest

end

/-- **The text of a value.** -/
def write (value : Json) : Text := writeAt 0 value

end NoteSieve.Json
