import NoteSieve.Query.Settings
import NoteSieve.Query.Token
import NoteSieve.Text.Fold
import NoteSieve.Text.Words

/-!
# Queries

A search text is read word by word. A word that begins with one of the tag operators, whatever the
case, asks for the tag named by its rest; every other word is a keyword. No text is refused, and no
word is lost: a query has one token for each word, in order.
-/

namespace NoteSieve

/-- The name of the tag that a word asks for: what follows the first operator that it begins
with. -/
def Operators.tagOf? (ops : Operators) (word : Text) : Option Text :=
  ops.toList.findSome? (Text.afterCaseless? · word)

/-- **The token of a word.** -/
def Token.ofWord (ops : Operators) (word : Text) : Token :=
  match ops.tagOf? word with
  | some name => .tag name
  | none => .keyword word

/-- A search text with its tokens. -/
structure Query where
  /-- The text as it was typed. -/
  searchText : Text
  /-- One token for each of its words. -/
  tokens : List Token
  deriving Repr

namespace Query

/-- **Reads a search text.** -/
def parse (ops : Operators) (s : Text) : Query := ⟨s, s.words.map (Token.ofWord ops)⟩

/-- Whether a query asks for nothing at all. -/
def isEmpty (q : Query) : Bool := q.tokens.isEmpty

/-- The word that is being typed. -/
def lastToken? (q : Query) : Option Token := q.tokens.getLast?

/-- The keywords, in order. -/
def keywords (q : Query) : List Text := q.tokens.filterMap Token.keyword?

/-- The names of the tags asked for, in order. An operator on its own names none. -/
def tags (q : Query) : List Text := q.tokens.filterMap Token.tagName?

/-- Two queries are the same when their tokens are, however their words are spaced. -/
def same (p q : Query) : Bool := p.tokens == q.tokens

end Query

/-- The search text after a suggestion has been accepted: its last word is replaced by the
suggestion, as a tag with the primary operator before it. -/
def completedText (ops : Operators) (s word : Text) (asTag : Bool) : Text :=
  s.replaceLastWord (if asTag then ops.primary ++ word else word)

end NoteSieve
