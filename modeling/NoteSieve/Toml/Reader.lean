import NoteSieve.Toml.Scalar
import NoteSieve.Toml.Strings

/-!
# Reading TOML

A document is read line by line: blank lines and comments, headers of tables and of arrays of
tables, and keys with their values. Every line adds to one table, which is where keys that clash are
refused. Arrays may run over several lines and hold comments, tables between braces may not.

Values and keys are nested at most `maxDepth` deep.
-/

namespace NoteSieve.Toml

/-! ### Spaces, comments and line ends -/

/-- A text without the spaces and tabs at its front. -/
def skipSpaces (s : Text) : Text := s.dropWhile isSpace

/-- A character of a comment. -/
def isCommentChar (c : Char) : Bool := !isControl c && c != '\n'

/-- A text without the comment at its front. -/
def skipComment : Text → Text
  | '#' :: rest => rest.dropWhile isCommentChar
  | s => s

/-- The text after the end of a line, where only spaces and a comment may stand before it. -/
def endLine? (s : Text) : Option Text :=
  match skipComment (skipSpaces s) with
  | [] => some []
  | s => if startsBreak s then some (skipBreak s) else none

/-- A text without the spaces, line breaks and comments at its front. The calls are counted
down. -/
def skipLines : Nat → Text → Text
  | 0, s => s
  | fuel + 1, s =>
    match skipBreaks s with
    | '#' :: rest => skipLines fuel (skipComment ('#' :: rest))
    | s => s

/-! ### Keys -/

/-- How deep values and keys may be nested. -/
def maxDepth : Nat := 79

/-- A character of a key without quotes. -/
def isKeyChar (c : Char) : Bool := c.isAlphanum || c == '_' || c == '-'

/-- Reads one key. -/
def readKey (s : Text) : Option (Text × Text) :=
  match s.takeWhile isKeyChar with
  | [] => readShortString? s
  | key => some (key, s.dropWhile isKeyChar)

/-- Reads keys with dots between them, and the spaces around each. The calls are counted down, and
so many keys are the most there may be. -/
def readKeys : Nat → Text → Option (List Text × Text)
  | 0, _ => none
  | fuel + 1, s =>
    match readKey (skipSpaces s) with
    | none => none
    | some (key, rest) =>
      match skipSpaces rest with
      | '.' :: rest => (readKeys fuel rest).map fun (keys, rest) => (key :: keys, rest)
      | rest => some ([key], rest)

/-- Keys as the path to a table and the key in it. -/
def splitLast (keys : List Text) : List Text × Text := (keys.dropLast, keys.getLast?.getD [])

/-! ### Values -/

mutual

/-- Reads a value. The calls are counted down, and the depth is counted up. -/
def readValue : Nat → Nat → Text → Option (Toml × Text)
  | 0, _, _ => none
  | fuel + 1, depth, s =>
    match s with
    | '[' :: rest =>
      if depth < maxDepth then
        (readElements fuel (depth + 1) rest).map fun (elements, rest) => (.array elements, rest)
      else none
    | '\x7b' :: rest =>
      if depth < maxDepth then
        match skipSpaces rest with
        | '\x7d' :: rest => some (.table .inline [], rest)
        | rest =>
          (readEntries fuel (depth + 1) [] rest).map fun (entries, rest) =>
            (.table .inline entries, rest)
      else none
    | '"' :: _ => (readString? s).map fun (value, rest) => (.string value, rest)
    | '\'' :: _ => (readString? s).map fun (value, rest) => (.string value, rest)
    | s => readWord s

/-- Reads the elements of an array up to its closing bracket. -/
def readElements : Nat → Nat → Text → Option (List Toml × Text)
  | 0, _, _ => none
  | fuel + 1, depth, s =>
    match skipLines s.length s with
    | ']' :: rest => some ([], rest)
    | s =>
      match readValue fuel depth s with
      | none => none
      | some (element, rest) =>
        match skipLines rest.length rest with
        | ',' :: rest =>
          (readElements fuel depth rest).map fun (elements, rest) => (element :: elements, rest)
        | ']' :: rest => some ([element], rest)
        | _ => none

/-- Reads the entries of a table between braces up to its closing brace, and adds them to those
read before. -/
def readEntries : Nat → Nat → Entries → Text → Option (Entries × Text)
  | 0, _, _, _ => none
  | fuel + 1, depth, entries, s =>
    match readKeys maxDepth s with
    | some (keys, '=' :: rest) =>
      match readValue fuel depth (skipSpaces rest) with
      | none => none
      | some (value, rest) =>
        match addValue (splitLast keys).1 (splitLast keys).2 value entries with
        | none => none
        | some entries =>
          match skipSpaces rest with
          | ',' :: rest => readEntries fuel depth entries rest
          | '\x7d' :: rest => some (entries, rest)
          | _ => none
    | _ => none

end

/-! ### Documents -/

/-- Reads a header after its opening brackets, up to and with the closing ones. -/
def readHeader (closing s : Text) : Option (List Text × Text) :=
  match readKeys maxDepth s with
  | some (keys, rest) => (Text.after? closing rest).map (keys, ·)
  | none => none

/-- Reads the lines of a document into a table, given the keys of the last header. The calls are
counted down. -/
def readLines : Nat → List Text → Entries → Text → Option Entries
  | 0, _, _, _ => none
  | fuel + 1, header, root, s =>
    match skipSpaces s with
    | [] => some root
    | '[' :: '[' :: rest => do
      let (keys, rest) ← readHeader [']', ']'] rest
      let root ← openNext (splitLast keys).1 (splitLast keys).2 root
      readLines fuel keys root (← endLine? rest)
    | '[' :: rest => do
      let (keys, rest) ← readHeader [']'] rest
      let root ← openTable (splitLast keys).1 (splitLast keys).2 root
      readLines fuel keys root (← endLine? rest)
    | s =>
      match endLine? s with
      | some rest => readLines fuel header root rest
      | none =>
        match readKeys maxDepth s with
        | some (keys, '=' :: rest) => do
          let (value, rest) ← readValue (2 * rest.length + 1) 0 (skipSpaces rest)
          let root ← alongHeader (addValue (splitLast keys).1 (splitLast keys).2 value) header root
          readLines fuel header root (← endLine? rest)
        | _ => none

/-- **The table that a document describes.** A byte order mark at its front is passed over. -/
def read? (s : Text) : Option Entries :=
  let s := match s with
    | '\ufeff' :: rest => rest
    | s => s
  readLines (s.length + 1) [] [] s

end NoteSieve.Toml
