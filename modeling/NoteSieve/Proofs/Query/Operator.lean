import Mathlib.Data.List.Basic
import NoteSieve.Query.Basic

/-!
# Operators at the front of a word

An operator and a word are compared in lower case, but the word is taken from the front one whole
character after the other. `NoteSieve.Text.afterLower?_append` says what that comes to: a front of
the word uses up its own lower case, whatever follows it on either side. As no character is empty
in lower case (`NoteSieve.Unicode.lowerChar_ne_nil`), an operator is used up by itself and by
nothing shorter. So an operator is found exactly where a front of the word has the operator's lower
case (`NoteSieve.Text.afterCaseless?_eq_some_iff`), and a word that was written as an operator with
a name behind it asks for the tag of that name (`NoteSieve.Token.ofWord_primary_append`).
-/

namespace NoteSieve

namespace Text

open Unicode

theorem after?_append (front rest : Text) : after? front (front ++ rest) = some rest :=
  after?_eq_some_iff.mpr rfl

@[simp]
theorem afterLower?_nil (word : Text) : afterLower? [] word = some word := by
  cases word <;> rfl

/-- As long as something of the operator is left, the next character of the word has to be at its
front. -/
theorem afterLower?_cons {expected : Text} (h : expected ≠ []) (c : Char) (rest : Text) :
    afterLower? expected (c :: rest)
      = (after? (lowerChar c) expected).bind fun expected => afterLower? expected rest := by
  obtain ⟨d, ds, rfl⟩ := List.exists_cons_of_ne_nil h
  rw [afterLower?]
  · cases after? (lowerChar c) (d :: ds) <;> rfl
  · simp

/-- **The front of a word uses up its own lower case**, and the search goes on behind it. -/
theorem afterLower?_append (front expected rest : Text) :
    afterLower? (lowerEach front ++ expected) (front ++ rest) = afterLower? expected rest := by
  induction front with
  | nil => rfl
  | cons c front ih =>
    have hsplit : lowerEach (c :: front) ++ expected
        = lowerChar c ++ (lowerEach front ++ expected) := by
      rw [lowerEach, List.flatMap_cons, List.append_assoc]
      rfl
    have hne : lowerChar c ++ (lowerEach front ++ expected) ≠ [] :=
      List.append_ne_nil_of_left_ne_nil (lowerChar_ne_nil c) _
    rw [hsplit, List.cons_append, afterLower?_cons hne, after?_append, Option.bind_some, ih]

/-- A search that succeeds has used up a front of the word, and nothing but it. -/
theorem exists_front_of_afterLower? {expected word rest : Text}
    (h : afterLower? expected word = some rest) :
    ∃ front, word = front ++ rest ∧ lowerEach front = expected := by
  induction word generalizing expected with
  | nil =>
    cases expected with
    | nil => exact ⟨[], by simpa using h, rfl⟩
    | cons d ds => simp [afterLower?] at h
  | cons c word ih =>
    by_cases hnil : expected = []
    · subst hnil
      exact ⟨[], by simpa using h, rfl⟩
    · rw [afterLower?_cons hnil, Option.bind_eq_some_iff] at h
      obtain ⟨left, hafter, hleft⟩ := h
      obtain ⟨front, rfl, hfront⟩ := ih hleft
      refine ⟨c :: front, rfl, ?_⟩
      rw [after?_eq_some_iff.mp hafter, ← hfront]
      rfl

/-- A word begins with an operator in some case: a front of the word has the operator's lower case,
character by character, and the rest follows it. -/
def BeginsWith (operator word rest : Text) : Prop :=
  ∃ front, word = front ++ rest ∧ lowerEach front = lowerEach operator

/-- **What is found behind an operator** is what follows it, in whatever case it is written. -/
theorem afterCaseless?_eq_some_iff {operator word rest : Text} :
    afterCaseless? operator word = some rest ↔ BeginsWith operator word rest := by
  constructor
  · exact exists_front_of_afterLower?
  · rintro ⟨front, rfl, hfront⟩
    have h := afterLower?_append front [] rest
    rw [List.append_nil, afterLower?_nil, hfront] at h
    exact h

theorem afterCaseless?_eq_none_iff {operator word : Text} :
    afterCaseless? operator word = none ↔ ∀ rest, ¬BeginsWith operator word rest := by
  rw [Option.eq_none_iff_forall_ne_some]
  exact forall_congr' fun rest => not_congr afterCaseless?_eq_some_iff

theorem afterCaseless?_append (operator rest : Text) :
    afterCaseless? operator (operator ++ rest) = some rest :=
  afterCaseless?_eq_some_iff.mpr ⟨operator, rfl, rfl⟩

end Text

theorem Operators.tagOf?_eq (ops : Operators) (word : Text) :
    ops.tagOf? word
      = (Text.afterCaseless? ops.primary word).or (Text.afterCaseless? ops.localized word) := by
  rw [tagOf?, toList, List.findSome?_cons, List.findSome?_singleton]
  cases Text.afterCaseless? ops.primary word <;> rfl

/-- **The primary operator with a name behind it asks for the tag of that name**, whatever the
other operator is. -/
theorem Token.ofWord_primary_append (ops : Operators) (name : Text) :
    Token.ofWord ops (ops.primary ++ name) = .tag name := by
  rw [Token.ofWord, Operators.tagOf?_eq, Text.afterCaseless?_append]
  rfl

end NoteSieve
