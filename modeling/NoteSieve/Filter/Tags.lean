import NoteSieve.Text.Basic

/-!
# The written form of a tag

The tags of a note are one text that holds a JSON array, and a tag is looked for in it as it is
written there: between quotes, with a backslash before each backslash and each slash.
-/

namespace NoteSieve.Text

/-- A character of a tag as the array writes it. -/
def escapeTagChar (c : Char) : Text :=
  if c = '\\' ∨ c = '/' then ['\\', c] else [c]

/-- **A tag as it is written inside the array of tags.** -/
def quotedTag (name : Text) : Text := ['"'] ++ name.flatMap escapeTagChar ++ ['"']

end NoteSieve.Text
