import NoteSieve.Json.Value
import NoteSieve.Text.Digits

/-!
# Reading JSON

A text is read by the grammar alone: white space, literals, numbers, strings, arrays, objects. The
reader refuses what the grammar refuses and nothing else, so it checks neither the size of a number
nor how deep a value is nested, and it gives a string with half of a surrogate pair back as one
without a text.

Reading a value calls itself on the text that is left. The calls are counted down from twice the
length of the text, which no reading can use up: every two calls read at least one character.
-/

namespace NoteSieve.Json

/-! ### White space -/

/-- The white space of JSON. -/
def isSpace (c : Char) : Bool := c == ' ' || c == '\t' || c == '\n' || c == '\r'

/-- A text without the white space at its front. -/
def skipSpace (s : Text) : Text := s.dropWhile isSpace

/-! ### Strings -/

/-- The character that a backslash and a letter stand for. -/
def shortEscape? (c : Char) : Option Char :=
  match c with
  | '"' => some '"'
  | '\\' => some '\\'
  | '/' => some '/'
  | 'b' => some '\x08'
  | 'f' => some '\x0c'
  | 'n' => some '\n'
  | 'r' => some '\r'
  | 't' => some '\t'
  | _ => none

/-- Reads a string after its opening quote. The result is the numbers that its characters and
escapes stand for, where an escape may stand for half of a surrogate pair, and the text after the
closing quote. -/
def readUnits : Text → Option (List Nat × Text)
  | [] => none
  | '"' :: rest => some ([], rest)
  | '\\' :: 'u' :: a :: b :: c :: d :: rest =>
    match Text.digits? 16 [a, b, c, d], readUnits rest with
    | some n, some (units, rest) => some (n :: units, rest)
    | _, _ => none
  | '\\' :: c :: rest =>
    match shortEscape? c, readUnits rest with
    | some c, some (units, rest) => some (c.toNat :: units, rest)
    | _, _ => none
  | c :: rest =>
    if c.toNat < 0x20 ∨ c = '\\' then none
    else (readUnits rest).map fun (units, rest) => (c.toNat :: units, rest)

/-- The first half of a surrogate pair. -/
def isLead (n : Nat) : Bool := 0xD800 ≤ n && n < 0xDC00

/-- The second half of a surrogate pair. -/
def isTrail (n : Nat) : Bool := 0xDC00 ≤ n && n < 0xE000

/-- The character that a surrogate pair stands for. -/
def joinPair (lead trail : Nat) : Char :=
  Char.ofNat (0x10000 + (lead - 0xD800) * 0x400 + (trail - 0xDC00))

/-- The text that a list of numbers spells, if every half of a pair has its other half beside it. -/
def textOfUnits : List Nat → StringText
  | [] => some []
  | [n] => if isLead n || isTrail n then none else some [Char.ofNat n]
  | n :: m :: rest =>
    if isLead n then
      if isTrail m then (textOfUnits rest).map (joinPair n m :: ·) else none
    else if isTrail n then none
    else (textOfUnits (m :: rest)).map (Char.ofNat n :: ·)

/-- **Reads a string** after its opening quote. -/
def readString (s : Text) : Option (StringText × Text) :=
  (readUnits s).map fun (units, rest) => (textOfUnits units, rest)

/-! ### Numbers -/

/-- The digits at the front of a text, of which there has to be one. -/
def readDigits (s : Text) : Option (Text × Text) :=
  if (s.takeWhile Text.isDigit).isEmpty then none
  else some (s.takeWhile Text.isDigit, s.dropWhile Text.isDigit)

/-- The sign at the front of a number. -/
def readSign : Text → Text × Text
  | '-' :: rest => (['-'], rest)
  | s => ([], s)

/-- The whole part of a number: a zero has no digit after it. -/
def readWhole : Text → Option (Text × Text)
  | '0' :: rest => some (['0'], rest)
  | s => readDigits s

/-- The decimal places of a number, if it has any. -/
def readPlaces : Text → Option (Text × Text)
  | '.' :: rest => (readDigits rest).map fun (digits, rest) => ('.' :: digits, rest)
  | s => some ([], s)

/-- The exponent of a number, if it has one. -/
def readExponent : Text → Option (Text × Text)
  | [] => some ([], [])
  | c :: rest =>
    if c = 'e' ∨ c = 'E' then
      match rest with
      | [] => none
      | sign :: more =>
        if sign = '+' ∨ sign = '-' then
          (readDigits more).map fun (digits, rest) => (c :: sign :: digits, rest)
        else (readDigits rest).map fun (digits, rest) => (c :: digits, rest)
    else some ([], c :: rest)

/-- **Reads a number**, which keeps its spelling. -/
def readNumber (s : Text) : Option (Text × Text) := do
  let (sign, s) := readSign s
  let (whole, s) ← readWhole s
  let (places, s) ← readPlaces s
  let (exponent, s) ← readExponent s
  return (sign ++ whole ++ places ++ exponent, s)

/-! ### Values -/

mutual

/-- **Reads a value** and gives the text after it. -/
def readValue : Nat → Text → Option (Json × Text)
  | 0, _ => none
  | fuel + 1, s =>
    match skipSpace s with
    | 'n' :: 'u' :: 'l' :: 'l' :: rest => some (.null, rest)
    | 't' :: 'r' :: 'u' :: 'e' :: rest => some (.bool true, rest)
    | 'f' :: 'a' :: 'l' :: 's' :: 'e' :: rest => some (.bool false, rest)
    | '"' :: rest => (readString rest).map fun (value, rest) => (.string value, rest)
    | '[' :: rest =>
      match skipSpace rest with
      | ']' :: rest => some (.array [], rest)
      | _ => (readElements fuel rest).map fun (elements, rest) => (.array elements, rest)
    | '\x7b' :: rest =>
      match skipSpace rest with
      | '\x7d' :: rest => some (.object [], rest)
      | _ => (readMembers fuel rest).map fun (members, rest) => (.object members, rest)
    | s => (readNumber s).map fun (spelling, rest) => (.number spelling, rest)

/-- Reads the elements of an array that has one, up to the closing bracket. -/
def readElements : Nat → Text → Option (List Json × Text)
  | 0, _ => none
  | fuel + 1, s =>
    match readValue fuel s with
    | none => none
    | some (element, rest) =>
      match skipSpace rest with
      | ',' :: rest =>
        (readElements fuel rest).map fun (elements, rest) => (element :: elements, rest)
      | ']' :: rest => some ([element], rest)
      | _ => none

/-- Reads the members of an object that has one, up to the closing brace. -/
def readMembers : Nat → Text → Option (List (StringText × Json) × Text)
  | 0, _ => none
  | fuel + 1, s =>
    match skipSpace s with
    | '"' :: rest =>
      match readString rest with
      | none => none
      | some (key, rest) =>
        match skipSpace rest with
        | ':' :: rest =>
          match readValue fuel rest with
          | none => none
          | some (value, rest) =>
            match skipSpace rest with
            | ',' :: rest =>
              (readMembers fuel rest).map fun (members, rest) => ((key, value) :: members, rest)
            | '\x7d' :: rest => some ([(key, value)], rest)
            | _ => none
        | _ => none
    | _ => none

end

/-- **The value that a text spells**, with nothing but white space around it. -/
def read? (s : Text) : Option Json :=
  match readValue (2 * s.length + 1) s with
  | some (value, rest) => if (skipSpace rest).isEmpty then some value else none
  | none => none

/-! ### First laws: nothing is read without a call left -/

@[simp]
theorem readValue_zero (s : Text) : readValue 0 s = none := by
  rw [readValue]

@[simp]
theorem readElements_zero (s : Text) : readElements 0 s = none := by
  rw [readElements]

@[simp]
theorem readMembers_zero (s : Text) : readMembers 0 s = none := by
  rw [readMembers]

end NoteSieve.Json
