import NoteSieve.Text.Basic

/-!
# Tag operators

A word of a search text that begins with a tag operator asks for a tag. There are two operators: the
primary one, and one in the language of the user. The primary one is tried first.
-/

namespace NoteSieve

/-- The operators that make a word ask for a tag. An empty operator makes every word do so, which is
why the configuration refuses it. -/
structure Operators where
  /-- The operator that is tried first, and the one that is written. -/
  primary : Text
  /-- The operator in the language of the user. -/
  localized : Text
  deriving DecidableEq, Repr

namespace Operators

/-- The operator that is understood when nothing is configured. -/
def defaultOperator : Text := "tag:".toList

/-- Both operators at their default. -/
def default : Operators := ⟨defaultOperator, defaultOperator⟩

/-- The operators in the order in which they are tried. -/
def toList (ops : Operators) : List Text := [ops.primary, ops.localized]

end Operators

end NoteSieve
