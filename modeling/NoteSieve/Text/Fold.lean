import NoteSieve.Text.Basic
import NoteSieve.Unicode.Lower
import NoteSieve.Unicode.Mark
import NoteSieve.Unicode.Normal

/-!
# Folding

Two texts are compared by comparing their folds. Ignoring case puts a text in lower case; ignoring
diacritics takes it apart and drops the marks. A comparison that ignores only case composes the
text instead, so that an accented letter stays one character and is never found by its bare letter.
In either way the composed and the decomposed spelling of a text have the same fold; only the exact
comparison tells them apart.
-/

namespace NoteSieve

/-- What a comparison of texts leaves out of account. -/
structure Comparison where
  /-- Upper and lower case are the same. -/
  ignoresCase : Bool
  /-- A letter is the same with and without its marks. -/
  ignoresMarks : Bool
  deriving DecidableEq, Repr

namespace Comparison

/-- Character by character. -/
def exact : Comparison := ⟨false, false⟩

/-- Without regard to case. -/
def caseless : Comparison := ⟨true, false⟩

/-- Without regard to case or marks, the comparison of a search field. -/
def loose : Comparison := ⟨true, true⟩

end Comparison

namespace Text

open Unicode

/-- **The fold of a text**: what a comparison compares of it. -/
def fold (comparison : Comparison) (s : Text) : Text :=
  if comparison = .exact then s
  else
    let cased := if comparison.ignoresCase then lower s else s
    if comparison.ignoresMarks then (decomposed cased).filter fun c => !isMark c
    else composed cased

/-- What follows an operator at the front of a word. The two are compared in lower case, character
by character, and a character of the word is taken as a whole or not at all. The argument is what
is left of the operator's lower case. -/
def afterLower? : Text → Text → Option Text
  | [], word => some word
  | _ :: _, [] => none
  | expected, c :: rest =>
    match after? (lowerChar c) expected with
    | some expected => afterLower? expected rest
    | none => none

/-- **What follows an operator at the front of a word, whatever their case.** The rest keeps its own
case. -/
def afterCaseless? (operator word : Text) : Option Text := afterLower? (lowerEach operator) word

end Text

end NoteSieve
