import NoteSieve.Text.Fold
import NoteSieve.Unicode.Blank

/-!
# Patterns

What a text field is tested against. A `Pattern` is a text with the comparison to use; what is
looked for is its fold, which is made once, together with the pattern. A `Shape` is a condition on
the whole field, with the source that it was made from. The only one that the library makes itself
is the shape of the tags of an untagged note; those that are made elsewhere may accept anything.

Patterns are compared by text and comparison, and shapes by source. What a pattern keeps besides is
not looked at, nor can two shapes be compared by what they accept.
-/

namespace NoteSieve

/-! ### Texts to look for -/

/-- A text to look for, with the way in which it is compared. -/
structure Pattern where
  /-- The text as it was given. -/
  operand : Text
  /-- How it is compared. -/
  comparison : Comparison
  /-- The text as it is looked for. -/
  folded : Text
  /-- What is looked for is the fold of what was given. -/
  folded_eq : folded = operand.fold comparison

namespace Pattern

/-- **The pattern for a text**, which is folded here and not again. -/
def of (operand : Text) (comparison : Comparison) : Pattern :=
  ⟨operand, comparison, operand.fold comparison, rfl⟩

@[simp]
theorem of_operand (s : Text) (c : Comparison) : (of s c).operand = s := rfl

@[simp]
theorem of_comparison (s : Text) (c : Comparison) : (of s c).comparison = c := rfl

@[simp]
theorem of_folded (s : Text) (c : Comparison) : (of s c).folded = s.fold c := rfl

/-- Whether the pattern occurs in a text. -/
def foundIn (p : Pattern) (s : Text) : Bool := Text.occursIn p.folded (s.fold p.comparison)

/-- Whether the pattern is the whole of a text. -/
def equals (p : Pattern) (s : Text) : Bool := s.fold p.comparison == p.folded

/-- Whether two patterns are for the same text, compared in the same way. -/
def same (p q : Pattern) : Bool := p.operand == q.operand && p.comparison == q.comparison

/-- There is one pattern only for a text and a comparison. -/
theorem eq_of (p : Pattern) : p = .of p.operand p.comparison := by
  obtain ⟨operand, comparison, folded, rfl⟩ := p
  rfl

/-- **What a pattern looks for is settled by its text and comparison**, so these two decide whether
patterns are one. -/
theorem same_iff {p q : Pattern} : p.same q = true ↔ p = q := by
  rw [same, Bool.and_eq_true, beq_iff_eq, beq_iff_eq]
  constructor
  · rintro ⟨hoperand, hcomparison⟩
    rw [p.eq_of, q.eq_of, hoperand, hcomparison]
  · rintro rfl
    exact ⟨rfl, rfl⟩

end Pattern

/-! ### Shapes of a whole text -/

/-- A condition on the whole of a text. -/
structure Shape where
  /-- The source that the condition was made from, which a filter shows. -/
  source : Text
  /-- Whether a text meets the condition. -/
  accepts : Text → Bool

namespace Shape

/-- Whether a text is an empty pair of brackets, with white space around and between them. -/
def isEmptyBrackets (s : Text) : Bool :=
  match s.dropWhile Unicode.isBlank with
  | '[' :: rest =>
    match rest.dropWhile Unicode.isBlank with
    | ']' :: rest => rest.all Unicode.isBlank
    | _ => false
  | _ => false

/-- **Whether the tags of a note are those of an untagged one**: nothing at all, the word `null`, or
an empty array. -/
def isUntagged (s : Text) : Bool := s.isEmpty || s == "null".toList || isEmptyBrackets s

/-- The shape of the tags of a note that has none. -/
def untagged : Shape := ⟨"^(?:|null|\\s*\\[\\s*\\]\\s*)$".toList, isUntagged⟩

theorem accepts_untagged (s : Text) : untagged.accepts s = isUntagged s := rfl

end Shape

end NoteSieve
