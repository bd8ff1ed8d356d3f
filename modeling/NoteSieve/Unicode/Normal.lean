import NoteSieve.Unicode.CombiningClass
import NoteSieve.Unicode.Composition
import NoteSieve.Unicode.Decomposition

/-!
# Canonical normal forms

Two texts are canonically equivalent when they are spellings of the same characters, composed or
not. Each class of equivalent texts has two distinguished members: the one with everything taken
apart and the marks in order (`decomposed`), and the one in which everything that can be written as
one character is (`composed`).

Taking apart is done character by character, and then the marks are sorted. The sort is an
insertion from the right: a character moves to the right across the marks of a smaller class, and
neither crosses a starter nor changes places with a mark of its own class. Putting together walks
over the decomposed text with the last starter in hand.
-/

namespace NoteSieve.Unicode

/-! ### Decomposed text -/

/-- Puts a character in front of marks that are in order, moved behind those of a smaller class. -/
def insertMark (c : Char) : List Char → List Char
  | [] => [c]
  | d :: rest =>
    if 0 < combiningClass d ∧ combiningClass d < combiningClass c then d :: insertMark c rest
    else c :: d :: rest

/-- The text with each run of marks sorted by class; marks of one class keep their order. -/
def orderMarks : List Char → List Char
  | [] => []
  | c :: rest => insertMark c (orderMarks rest)

/-- **The decomposed form of a text** (form D). -/
def decomposed (s : List Char) : List Char := orderMarks (s.flatMap decomposition)

/-! ### Composed text -/

/-- Walks over a decomposed text with a starter in hand, which takes in what it can be composed
with. The marks that it could not take in wait, the latest first; a mark is blocked when the latest
of them has its class or a greater one. -/
def composeFrom (starter : Char) (waiting : List Char) : List Char → List Char
  | [] => starter :: waiting.reverse
  | c :: rest =>
    let class' := combiningClass c
    let blocked := match waiting with
      | [] => false
      | w :: _ => decide (class' ≤ combiningClass w)
    match if blocked then none else compose? starter c with
    | some composite => composeFrom composite waiting rest
    | none =>
      if class' = 0 then starter :: (waiting.reverse ++ composeFrom c [] rest)
      else composeFrom starter (c :: waiting) rest

/-- Composes a decomposed text. Marks before the first starter have nothing to be composed with. -/
def compose : List Char → List Char
  | [] => []
  | c :: rest => if combiningClass c = 0 then composeFrom c [] rest else c :: compose rest

/-- **The composed form of a text** (form C). -/
def composed (s : List Char) : List Char := compose (decomposed s)

end NoteSieve.Unicode
