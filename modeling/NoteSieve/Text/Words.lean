import NoteSieve.Text.Basic
import NoteSieve.Unicode.Blank

/-!
# Words

Two notions of a word meet in a search field. The query reads a text as the runs between white
space of any kind (`Text.words`). The field itself, when a suggestion is accepted, replaces what
stands after the last blank *of the line* (`Text.replaceLastWord`): there a line break is part of a
word, and two blanks in a row have an empty word between them.
-/

namespace NoteSieve.Text

open Unicode

/-- **The words of a text**: the longest runs without white space. -/
def words (s : Text) : List Text := (fragments isBlank s).filter fun word => !word.isEmpty

/-- **The text with another last word.** Every blank of a line ends a word, and is written as a
space afterwards; a text that ends in a blank has an empty last word. -/
def replaceLastWord (s word : Text) : Text :=
  joinWith [' '] ((fragments isInlineBlank s).dropLast ++ [word])

end NoteSieve.Text
