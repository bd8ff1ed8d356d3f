import NoteSieve.Json.Reader
import NoteSieve.Output.Style
import NoteSieve.Query.Basic
import NoteSieve.Record.Basic
import NoteSieve.Unicode.Blank

/-!
# Tables

What the commands print for a reader: a row for each note, tag or token, under a heading. A column
is filled up to its width inside its style, and the end of each row is cut off after its last
visible character.

A row of the notes shows the key and the title, both shortened to their columns, and the tags. When
a limit left notes out, a footer tells how many are shown of how many.
-/

namespace NoteSieve

open Unicode

/-! ### Cells -/

/-- A text shortened to a number of characters, the last three of which are dots. -/
def Text.truncate (width : Nat) (s : Text) : Text :=
  if s.length ≤ width then s else s.take (width - 3) ++ ['.', '.', '.']

/-- The tags of a note for a reader: the names with a space between them. A text that is no array of
names is shown as it is, without the white space around it. -/
def formatTagList : Option Text → Text
  | none => []
  | some raw =>
    match (Json.read? raw).bind Json.texts? with
    | some names => Text.joinWith [' '] names
    | none => raw.trim isBlank

/-- A row of a table: cells with a space between them and nothing after the last visible
character. -/
def tableRow (cells : List Text) : Text := (Text.joinWith [' '] cells).trimEnd isBlank

/-! ### Notes -/

/-- The width of the column of keys. -/
def idWidth : Nat := 8

/-- The width of the column of titles. -/
def titleWidth : Nat := 40

/-- The heading of the notes. -/
def notesHeading : Text :=
  Text.joinWith [' ']
    [Text.padRight idWidth "ID".toList, Text.padRight titleWidth "Title".toList, "Tags".toList]

/-- The row of a note. -/
def Note.row (color : Bool) (n : Note) : Text :=
  tableRow
    [Style.dimmed.paint color (((n.id.getD ['-']).truncate idWidth).padRight idWidth),
      Style.bold.paint color ((n.title.truncate titleWidth).padRight titleWidth),
      Style.cyan.paint color (formatTagList n.tags)]

/-- The footer of a table that leaves notes out: an empty line, and how many are shown. -/
def notesFooter (shown total : Nat) : List Text :=
  if shown < total then
    [[], Text.ofNat shown ++ " of ".toList ++ Text.ofNat total ++ " notes shown".toList]
  else []

/-- **The table of the notes**, where `total` is the number of notes before any were left out. -/
def notesTable (color : Bool) (notes : List Note) (total : Nat) : Text :=
  if notes.isEmpty then Text.unlines ["No notes found.".toList]
  else
    Text.unlines <|
      Style.dimmed.paint color notesHeading :: notes.map (Note.row color)
        ++ notesFooter notes.length total

/-! ### Tags -/

/-- **The table of the tags**: the names behind the operator, as one would type them. A tag without
a name has no row. -/
def tagsTable (color : Bool) (operator : Text) (tags : List Tag) : Text :=
  if tags.isEmpty then Text.unlines ["No tags found.".toList]
  else
    Text.unlines <| (tags.filterMap Tag.name).map fun name =>
      Style.dimmed.paint color operator ++ Style.cyan.paint color name

/-! ### Tokens -/

/-- The widths of the columns of numbers and kinds. -/
def tokenWidths : Nat × Nat := (4, 8)

/-- The heading of the tokens. -/
def tokensHeading : Text :=
  Text.joinWith [' ']
    [Text.padRight tokenWidths.1 ['#'], Text.padRight tokenWidths.2 "Kind".toList, "Text".toList]

/-- The row of a token with its number. The kind of a tag stands out. -/
def Token.row (color : Bool) (number : Nat) (t : Token) : Text :=
  let kind := t.kind.padRight tokenWidths.2
  tableRow
    [(Text.ofNat number).padRight tokenWidths.1,
      match t with
      | .keyword _ => kind
      | .tag _ => Style.cyan.paint color kind,
      t.text]

/-- **The table of the tokens of a query**, numbered from 1. -/
def tokensTable (color : Bool) (q : Query) : Text :=
  if q.isEmpty then Text.unlines ["No tokens.".toList]
  else
    Text.unlines <|
      Style.dimmed.paint color tokensHeading
        :: (q.tokens.zipIdx 1).map fun (t, number) => t.row color number

end NoteSieve
