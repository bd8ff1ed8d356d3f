import NoteSieve.Text.Basic

/-!
# Digits

What the notations of numbers share: which characters are digits, and what a list of them is worth.
-/

namespace NoteSieve.Text

/-- A decimal digit. -/
def isDigit (c : Char) : Bool := '0' ≤ c && c ≤ '9'

/-- The value of a digit in the bases up to sixteen; a digit of ten and above is a letter of either
case. -/
def digitValue? (c : Char) : Option Nat :=
  if '0' ≤ c ∧ c ≤ '9' then some (c.toNat - '0'.toNat)
  else if 'a' ≤ c ∧ c ≤ 'f' then some (c.toNat - 'a'.toNat + 10)
  else if 'A' ≤ c ∧ c ≤ 'F' then some (c.toNat - 'A'.toNat + 10)
  else none

/-- Goes on with a number by more digits. -/
def digitsFrom? (base value : Nat) : Text → Option Nat
  | [] => some value
  | c :: rest =>
    match digitValue? c with
    | some d => if d < base then digitsFrom? base (value * base + d) rest else none
    | none => none

/-- **The number that digits of a base spell.** There has to be one. -/
def digits? (base : Nat) (s : Text) : Option Nat :=
  if s.isEmpty then none else digitsFrom? base 0 s

end NoteSieve.Text
