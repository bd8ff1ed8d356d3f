import NoteSieve.Text.Digits
import NoteSieve.Toml.Value

/-!
# TOML strings

A string has four written forms: between double quotes with escapes, between single quotes without
any, and each of the two over several lines between triple quotes. In a form with triple quotes a
line break right after the opening is left out, and up to two quotes may stand in a row, even before
the closing ones.

The writer takes the first form in which a text needs no escape, where a tab, which a form with
escapes always escapes, is no reason against it; and a form with escapes where there is none. The
reader undoes every form.
-/

namespace NoteSieve.Toml

/-! ### Characters -/

/-- The controls that no form holds as they are, a tab and a line feed apart. -/
def isControl (c : Char) : Bool :=
  (c.toNat < 0x20 && c != '\t' && c != '\n') || c.toNat == 0x7f

/-- White space inside a line. -/
def isSpace (c : Char) : Bool := c == ' ' || c == '\t'

/-! ### Reading -/

/-- The character that a backslash and a letter stand for. -/
def shortEscape? (c : Char) : Option Char :=
  match c with
  | 'b' => some '\x08'
  | 't' => some '\t'
  | 'n' => some '\n'
  | 'f' => some '\x0c'
  | 'r' => some '\r'
  | '"' => some '"'
  | '\\' => some '\\'
  | _ => none

/-- The character of a code point given in hexadecimal digits. -/
def codePoint? (digits : Text) : Option Char :=
  match Text.digits? 16 digits with
  | some n => if n.isValidChar then some (Char.ofNat n) else none
  | none => none

/-- Reads an escape after its backslash. -/
def readEscape : Text → Option (Char × Text)
  | 'u' :: a :: b :: c :: d :: rest => (codePoint? [a, b, c, d]).map (·, rest)
  | 'U' :: a :: b :: c :: d :: e :: f :: g :: h :: rest =>
    (codePoint? [a, b, c, d, e, f, g, h]).map (·, rest)
  | c :: rest => (shortEscape? c).map (·, rest)
  | [] => none

/-- Puts a character in front of what has been read. -/
def consRead (c : Char) (r : Option (Text × Text)) : Option (Text × Text) :=
  r.map fun (s, rest) => (c :: s, rest)

/-- Reads a string between double quotes, after the opening one. The calls are counted down. -/
def readBasic : Nat → Text → Option (Text × Text)
  | 0, _ => none
  | _ + 1, [] => none
  | _ + 1, '"' :: rest => some ([], rest)
  | fuel + 1, '\\' :: rest =>
    match readEscape rest with
    | some (c, rest) => consRead c (readBasic fuel rest)
    | none => none
  | fuel + 1, c :: rest =>
    if isControl c || c == '\n' then none else consRead c (readBasic fuel rest)

/-- Reads a string between single quotes, after the opening one. -/
def readLiteral : Text → Option (Text × Text)
  | [] => none
  | '\'' :: rest => some ([], rest)
  | c :: rest => if isControl c || c == '\n' then none else consRead c (readLiteral rest)

/-- A text without the line break at its front. -/
def skipBreak : Text → Text
  | '\n' :: rest => rest
  | '\r' :: '\n' :: rest => rest
  | s => s

/-- Whether a text begins with a line break. -/
def startsBreak : Text → Bool
  | '\n' :: _ => true
  | '\r' :: '\n' :: _ => true
  | _ => false

/-- A text without the spaces and line breaks at its front. -/
def skipBreaks : Text → Text
  | [] => []
  | '\n' :: rest => skipBreaks rest
  | '\r' :: '\n' :: rest => skipBreaks rest
  | c :: rest => if isSpace c then skipBreaks rest else c :: rest

/-- What follows a backslash at the end of a line: the text behind all spaces and line breaks. -/
def afterLineEnd? (s : Text) : Option Text :=
  if startsBreak (s.dropWhile isSpace) then some (skipBreaks s) else none

/-- Reads a string between triple double quotes, after the opening ones. The calls are counted
down. -/
def readLongBasic : Nat → Text → Option (Text × Text)
  | 0, _ => none
  | _ + 1, [] => none
  | _ + 1, '"' :: '"' :: '"' :: '"' :: '"' :: rest => some (['"', '"'], rest)
  | _ + 1, '"' :: '"' :: '"' :: '"' :: rest => some (['"'], rest)
  | _ + 1, '"' :: '"' :: '"' :: rest => some ([], rest)
  | fuel + 1, '\\' :: rest =>
    match afterLineEnd? rest with
    | some rest => readLongBasic fuel rest
    | none =>
      match readEscape rest with
      | some (c, rest) => consRead c (readLongBasic fuel rest)
      | none => none
  | fuel + 1, '\r' :: '\n' :: rest => consRead '\n' (readLongBasic fuel rest)
  | fuel + 1, c :: rest => if isControl c then none else consRead c (readLongBasic fuel rest)

/-- Reads a string between triple single quotes, after the opening ones. -/
def readLongLiteral : Text → Option (Text × Text)
  | [] => none
  | '\'' :: '\'' :: '\'' :: '\'' :: '\'' :: rest => some (['\'', '\''], rest)
  | '\'' :: '\'' :: '\'' :: '\'' :: rest => some (['\''], rest)
  | '\'' :: '\'' :: '\'' :: rest => some ([], rest)
  | '\r' :: '\n' :: rest => consRead '\n' (readLongLiteral rest)
  | c :: rest => if isControl c then none else consRead c (readLongLiteral rest)

/-- Reads a string in one of the two forms of a single line, which are also those of a key. -/
def readShortString? : Text → Option (Text × Text)
  | '"' :: rest => readBasic (rest.length + 1) rest
  | '\'' :: rest => readLiteral rest
  | _ => none

/-- **Reads a string in any form.** -/
def readString? : Text → Option (Text × Text)
  | '"' :: '"' :: '"' :: rest => readLongBasic (rest.length + 1) (skipBreak rest)
  | '\'' :: '\'' :: '\'' :: rest => readLongLiteral (skipBreak rest)
  | s => readShortString? s

/-! ### Writing -/

/-- The written forms of a string. -/
inductive Form where
  /-- Between double quotes. -/
  | basic
  /-- Between single quotes. -/
  | literal
  /-- Between triple double quotes. -/
  | longBasic
  /-- Between triple single quotes. -/
  | longLiteral
  deriving DecidableEq, Repr

/-- Whether a character occurs more than twice in a row, given how often it has just occurred. -/
def hasRun (c : Char) : Nat → Text → Bool
  | _, [] => false
  | n, d :: rest =>
    if d = c then (if 2 ≤ n then true else hasRun c (n + 1) rest) else hasRun c 0 rest

/-- Whether a form holds a text without an escape other than that of a tab. -/
def Form.fits (s : Text) : Form → Bool
  | .basic => !s.any fun c => isControl c || c == '\\' || c == '"' || c == '\n'
  | .literal => !s.any fun c => isControl c || c == '\'' || c == '\n'
  | .longBasic => !(s.any fun c => isControl c || c == '\\') && !hasRun '"' 0 s
  | .longLiteral => !s.any isControl && !hasRun '\'' 0 s

/-- **The form in which a text is written**: the first one that fits, and if none does, the form
with escapes that has room for its line breaks. -/
def Form.of (s : Text) : Form :=
  match [Form.basic, .literal, .longBasic, .longLiteral].find? (Form.fits s) with
  | some form => form
  | none => if s.contains '\n' then .longBasic else .basic

/-- A character as a form with escapes writes it; quotes are not decided here. -/
def escapeChar (c : Char) : Text :=
  if c = '\x08' then ['\\', 'b']
  else if c = '\t' then ['\\', 't']
  else if c = '\x0c' then ['\\', 'f']
  else if c = '\r' then ['\\', 'r']
  else if c = '\\' then ['\\', '\\']
  else if isControl c then
    ['\\', 'u', '0', '0'] ++
      [Char.toUpper (Nat.digitChar (c.toNat / 16)), Char.toUpper (Nat.digitChar (c.toNat % 16))]
  else [c]

/-- The text between double quotes. -/
def writeBasic (s : Text) : Text :=
  s.flatMap fun c =>
    if c = '"' then ['\\', '"'] else if c = '\n' then ['\\', 'n'] else escapeChar c

/-- The text between triple double quotes, given how many quotes have just been written. The third
quote in a row is escaped, and ends the row. -/
def writeLongBasic : Nat → Text → Text
  | _, [] => []
  | n, c :: rest =>
    if c = '"' then
      if 2 ≤ n then ['\\', '"'] ++ writeLongBasic 0 rest else '"' :: writeLongBasic (n + 1) rest
    else escapeChar c ++ writeLongBasic 0 rest

/-- The line break after opening quotes: there is one where the text has one. -/
def openingBreak (s : Text) : Text := if s.contains '\n' then ['\n'] else []

/-- A text in a given form. -/
def Form.write (s : Text) : Form → Text
  | .basic => ['"'] ++ writeBasic s ++ ['"']
  | .literal => ['\''] ++ s ++ ['\'']
  | .longBasic => ['"', '"', '"'] ++ openingBreak s ++ writeLongBasic 0 s ++ ['"', '"', '"']
  | .longLiteral => ['\'', '\'', '\''] ++ openingBreak s ++ s ++ ['\'', '\'', '\'']

/-- **A text as a string.** -/
def writeString (s : Text) : Text := (Form.of s).write s

end NoteSieve.Toml
