import NoteSieve.Text.Basic

/-!
# Tokens

A word of a search text is a keyword, to be found in the content of a note, or asks for a tag. A
token keeps the word as it was typed.
-/

namespace NoteSieve

/-- What one word of a search text asks for. -/
inductive Token where
  /-- A word to be found in the content of a note. -/
  | keyword (text : Text)
  /-- The name of a tag, which is empty while only the operator has been typed. -/
  | tag (name : Text)
  deriving DecidableEq, Repr

namespace Token

/-- The keyword or the name of the tag. -/
def text : Token → Text
  | keyword s => s
  | tag s => s

/-- The word for the kind of a token. -/
def kind : Token → Text
  | keyword _ => "keyword".toList
  | tag _ => "tag".toList

/-- Whether a token is an operator with nothing after it. -/
def isBareOperator : Token → Bool
  | keyword _ => false
  | tag s => s.isEmpty

/-- The text of a keyword. -/
def keyword? : Token → Option Text
  | keyword s => some s
  | tag _ => none

/-- The name of a tag, unless it is empty. -/
def tagName? : Token → Option Text
  | keyword _ => none
  | tag s => if s.isEmpty then none else some s

end Token

end NoteSieve
