import Mathlib.Logic.Relation
import NoteSieve.Proofs.Text.Sigma

/-!
# Other spellings of a word

What one types in a search field is meant to be found however it is written: in another case, with
an accent more or less, with its accented letters composed or not. Each of these is a change at one
place of the word (`NoteSieve.Text.Respelling`), and a word is respelled by any number of them, in
either direction (`NoteSieve.Text.Respelled`). **A respelled word has the same fold**
(`NoteSieve.Text.Respelled.alike`).

A change at one place has an effect on the rest of the word by one way only, the form of a capital
sigma. What a sigma sees of a piece of the word is whether there is a letter with case at its front
and at its back, so a piece may be exchanged for one that looks the same
(`NoteSieve.Unicode.exists_lower_exchange`). That leaves two kinds of changes out: a capital sigma
and a small one are not the same letter, since the capital one may stand for either small form; and
a mark that takes up room next to a letter hides the letter from a sigma behind it, so it may come
and go only in a word without a capital sigma.
-/

namespace NoteSieve

namespace Unicode

variable {s m m' : List Char} {c d : Char}

/-! ### Pieces that look the same -/

/-- A search for a letter with case sees the same in two texts, from either side. -/
structure LooksLike (m m' : List Char) : Prop where
  /-- It sees the same from the front. -/
  front : sight m = sight m'
  /-- It sees the same from the back. -/
  back : sight m.reverse = sight m'.reverse

/-- **A piece of a text may be exchanged for one that looks the same**: the lower case of what
stands around it stays. -/
theorem exists_lower_exchange (h : LooksLike m m') (hm : 'Σ' ∉ m) (hm' : 'Σ' ∉ m')
    (a b : List Char) :
    ∃ u v, lower (a ++ (m ++ b)) = u ++ (lowerEach m ++ v) ∧
      lower (a ++ (m' ++ b)) = u ++ (lowerEach m' ++ v) := by
  refine ⟨lowerBetween [] (m ++ b) a, lowerFrom (m.reverse ++ (a.reverse ++ [])) b, ?_, ?_⟩
  · rw [lower, lowerFrom_append_eq, lowerFrom_append hm]
    rfl
  · have hfront : lowerBetween [] (m' ++ b) a = lowerBetween [] (m ++ b) a := by
      refine Text.lowerBetween_congr fun u v _ => ?_
      rw [endsWord, endsWord, casedFirst_append v, casedFirst_append v, casedFirst_append m,
        casedFirst_append m', h.front]
    have hback : lowerFrom (m'.reverse ++ (a.reverse ++ [])) b
        = lowerFrom (m.reverse ++ (a.reverse ++ [])) b := by
      refine lowerFrom_congr ?_ b
      rw [casedFirst_append m.reverse, casedFirst_append m'.reverse, h.back]
    rw [lower, lowerFrom_append_eq, lowerFrom_append hm', hfront, hback]
    rfl

/-- A letter looks like any other with the same lower case. -/
theorem looksLike_of_lowerChar_eq (h : lowerChar c = lowerChar d) : LooksLike [c] [d] := by
  have hsight : sight [c] = sight [d] := by rw [← sight_lowerChar, h, sight_lowerChar]
  exact ⟨hsight, hsight⟩

/-- What is passed over looks like nothing. -/
theorem looksLike_nil (h : isCaseIgnorable c = true) : LooksLike [c] [] := by
  have hsight : sight [c] = sight [] := sight_eq_none_iff.mpr (by simpa using h)
  exact ⟨hsight, hsight⟩

theorem lowerEach_append (s t : List Char) : lowerEach (s ++ t) = lowerEach s ++ lowerEach t :=
  List.flatMap_append

/-- A text without a capital sigma is put in lower case character by character. -/
theorem lower_of_not_sigma (hs : 'Σ' ∉ s) : lower s = lowerEach s := by
  have h := lowerFrom_append hs [] []
  rwa [List.append_nil, lowerFrom, List.append_nil] at h

end Unicode

namespace Text

open Unicode

variable {s t a b : Text} {c d : Char}

/-! ### What a search does not tell apart -/

/-- Two texts that a search field takes for the same: they have the same fold, and one is not typed
yet only if the other is not. -/
structure Alike (s t : Text) : Prop where
  /-- They have the same fold. -/
  fold_eq : fold .loose s = fold .loose t
  /-- They are empty together. -/
  eq_nil_iff : s = [] ↔ t = []

theorem alike_equivalence : Equivalence Alike where
  refl _ := ⟨rfl, Iff.rfl⟩
  symm h := ⟨h.fold_eq.symm, h.eq_nil_iff.symm⟩
  trans h h' := ⟨h.fold_eq.trans h'.fold_eq, h.eq_nil_iff.trans h'.eq_nil_iff⟩

/-! ### One change -/

/-- **One change in the spelling of a word.** -/
inductive Respelling : Text → Text → Prop
  /-- The word in another case, if it is the same in lower case. -/
  | case {s t : Text} : lower s = lower t → Respelling s t
  /-- One letter in another case. -/
  | letter (a b : Text) {c d : Char} : lowerChar c = lowerChar d → c ≠ 'Σ' → d ≠ 'Σ' →
      Respelling (a ++ ([c] ++ b)) (a ++ ([d] ++ b))
  /-- One accent more: a mark that is passed over in the search for the letter next to a sigma, or
  any mark at all if there is no sigma. -/
  | accent (a b : Text) {c : Char} : a ++ b ≠ [] → isMark c = true →
      (isCaseIgnorable c = true ∨ 'Σ' ∉ a ++ b) → Respelling (a ++ ([c] ++ b)) (a ++ b)
  /-- The word with its letters composed or taken apart. -/
  | composition {s t : Text} : decomposed s = decomposed t → Respelling s t

theorem bare_lowerChar_of_isMark (h : isMark c = true) : bare (lowerChar c) = [] := by
  rw [lowerChar_of_isMark h, bare, List.flatMap_singleton, List.filter_eq_nil_iff]
  exact fun d hd => by simp [isMark_of_mem_decomposition h hd]

theorem fold_loose_letter (h : lowerChar c = lowerChar d) (hc : c ≠ 'Σ') (hd : d ≠ 'Σ')
    (a b : Text) : fold .loose (a ++ ([c] ++ b)) = fold .loose (a ++ ([d] ++ b)) := by
  obtain ⟨u, v, hlower, hlower'⟩ := exists_lower_exchange (looksLike_of_lowerChar_eq h)
    (by simpa using hc.symm) (by simpa using hd.symm) a b
  rw [fold_loose, fold_loose, hlower, hlower', lowerEach, lowerEach, List.flatMap_singleton,
    List.flatMap_singleton, h]

/-- **A mark is dropped**, and nothing else is different without it. -/
theorem fold_loose_accent (hc : isMark c = true)
    (h : isCaseIgnorable c = true ∨ 'Σ' ∉ a ++ b) :
    fold .loose (a ++ ([c] ++ b)) = fold .loose (a ++ b) := by
  have hsigma : 'Σ' ∉ [c] := by
    rw [List.mem_singleton]
    rintro rfl
    exact absurd hc (by decide)
  have hdropped : bare (lowerEach [c]) = [] := by
    rw [lowerEach, List.flatMap_singleton, bare_lowerChar_of_isMark hc]
  rw [fold_loose, fold_loose]
  rcases h with h | h
  · obtain ⟨u, v, hlower, hlower'⟩ := exists_lower_exchange (looksLike_nil h) hsigma
      List.not_mem_nil a b
    rw [hlower, ← List.nil_append b, hlower', bare_append, bare_append, hdropped, bare_append]
    rfl
  · have hword : 'Σ' ∉ a ++ ([c] ++ b) := by
      simp only [List.mem_append, not_or] at h hsigma ⊢
      exact ⟨h.1, hsigma, h.2⟩
    rw [lower_of_not_sigma hword, lower_of_not_sigma h]
    simp only [lowerEach_append, bare_append, hdropped, List.nil_append]

/-- **One change makes no difference to a search.** -/
theorem Respelling.alike (h : Respelling s t) : Alike s t := by
  cases h with
  | case h =>
    exact ⟨by rw [fold_loose, fold_loose, h], by rw [← lower_eq_nil_iff, h, lower_eq_nil_iff]⟩
  | letter a b h hc hd => exact ⟨fold_loose_letter h hc hd a b, by simp⟩
  | accent a b hne hc h => exact ⟨fold_loose_accent hc h, by simpa using hne⟩
  | composition h =>
    exact ⟨fold_congr (Or.inl rfl) h, by rw [← decomposed_eq_nil_iff, h, decomposed_eq_nil_iff]⟩

/-! ### Any number of changes -/

/-- **Another spelling of a word**: any number of changes, made or taken back. -/
def Respelled : Text → Text → Prop := Relation.EqvGen Respelling

theorem Respelled.alike (h : Respelled s t) : Alike s t := by
  induction h with
  | rel s t h => exact h.alike
  | refl s => exact alike_equivalence.refl s
  | symm s t _ ih => exact alike_equivalence.symm ih
  | trans s t u _ _ ih ih' => exact alike_equivalence.trans ih ih'

end Text

end NoteSieve
