/-!
# Hangul syllables

A Hangul syllable is a leading consonant, a vowel and at most one trailing consonant, and its code
point is computed from theirs. So the syllables need no entries in the tables of decompositions and
compositions: both directions are arithmetic.
-/

namespace NoteSieve.Unicode.Hangul

/-- The code point of the first syllable. -/
def syllableBase : Nat := 0xAC00

/-- The code point of the first leading consonant. -/
def leadBase : Nat := 0x1100

/-- The code point of the first vowel. -/
def vowelBase : Nat := 0x1161

/-- One less than the code point of the first trailing consonant: offset 0 stands for having
none. -/
def trailBase : Nat := 0x11A7

/-- The number of leading consonants. -/
def leadCount : Nat := 19

/-- The number of vowels. -/
def vowelCount : Nat := 21

/-- The number of trailing consonants, having none counted as one of them. -/
def trailCount : Nat := 28

/-- The number of syllables. -/
def syllableCount : Nat := leadCount * vowelCount * trailCount

/-- The letters of a syllable. Any other character is left as it is. -/
def decompose (c : Char) : List Char :=
  let n := c.toNat
  if syllableBase ≤ n ∧ n < syllableBase + syllableCount then
    let offset := n - syllableBase
    let lead := Char.ofNat (leadBase + offset / (vowelCount * trailCount))
    let vowel := Char.ofNat (vowelBase + offset % (vowelCount * trailCount) / trailCount)
    let trail := offset % trailCount
    if trail = 0 then [lead, vowel] else [lead, vowel, Char.ofNat (trailBase + trail)]
  else [c]

/-- The syllable that a pair is written as: a leading consonant with a vowel, or a syllable that
has no trailing consonant yet with one. -/
def compose? (a b : Char) : Option Char :=
  let m := a.toNat
  let n := b.toNat
  if leadBase ≤ m ∧ m < leadBase + leadCount ∧ vowelBase ≤ n ∧ n < vowelBase + vowelCount then
    let offset := (m - leadBase) * vowelCount + (n - vowelBase)
    some (Char.ofNat (syllableBase + offset * trailCount))
  else if syllableBase ≤ m ∧ m < syllableBase + syllableCount ∧ (m - syllableBase) % trailCount = 0
      ∧ trailBase < n ∧ n < trailBase + trailCount then
    some (Char.ofNat (m + (n - trailBase)))
  else none

end NoteSieve.Unicode.Hangul
