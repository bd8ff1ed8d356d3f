import NoteSieve.Proofs.Search.Spelling
import NoteSieve.Proofs.Text.Folded
import NoteSieve.Proofs.Unicode.Composed

/-!
# Searching for whole letters

A search with regard to marks compares composed texts, so that an accented letter is one character
and not found by its bare letter. This rests on there being such a character. A mark that no
composite takes in stays behind its letter (`NoteSieve.Text.takenAfter?_of_fold_eq`), and there a
match may end: the bare `x` is found in `x` with an acute accent
(`NoteSieve.systemTagFilter_cuts_x_acute`).

`NoteSieve.systemTagFilter_whole_iff` says for which texts this happens: **matches never end between
a letter and its mark exactly if every mark of the text is taken in as it comes**. A pattern is
still found as a whole elsewhere if what stands before each mark that is left is; what is used there
is that the front of a fold is its own fold (`NoteSieve.Text.fold_caseless_front`), so that a search
can be made for it.
-/

namespace NoteSieve

namespace Text

open Unicode

variable {s t : Text} {c : Char}

/-! ### Folds of folds -/

/-- **The front of a fold is its own fold.** -/
theorem fold_caseless_front {front back : Text} (h : fold .caseless s = front ++ back) :
    fold .caseless front = front := by
  have hfolded : IsFolded .caseless (front ++ back) := h ▸ isFolded_fold .caseless s
  exact hfolded.of_append.fold_eq

theorem fold_caseless_ne_nil (h : s ≠ []) : fold .caseless s ≠ [] := by
  intro hfold
  have hdecomposed : decomposed (lower s) = [] := by
    rw [← decomposed_composed, ← fold_caseless, hfold]
    rfl
  exact h (lower_eq_nil_iff.mp (decomposed_eq_nil_iff.mp hdecomposed))

/-! ### Whole occurrences -/

/-- **A text occurs in another without a mark behind it.** -/
def OccursWhole (t s : Text) : Prop := ∃ u v, s = u ++ (t ++ v) ∧ ∀ m ∈ v.head?, isMark m = false

/-- What stands before a place in a fold does not take in the character behind it. -/
theorem takenAfter?_of_fold_eq {front back : Text} (h : fold .caseless s = front ++ c :: back) :
    takenAfter? front c = none :=
  composed_settled (lower s) front c back h

/-- A pattern is found as a whole if all that stands before a mark is. -/
theorem OccursWhole.of_isInfix (ht : t ≠ []) (h : t <:+: s)
    (hs : ∀ p m v, s = p ++ m :: v → p ≠ [] → isMark m = true → OccursWhole p s) :
    OccursWhole t s := by
  obtain ⟨u, v, huv⟩ := h
  have hcut : s = u ++ (t ++ v) := by rw [← huv, List.append_assoc]
  cases v with
  | nil => exact ⟨u, [], hcut, by simp⟩
  | cons m v =>
    cases hm : isMark m with
    | false => exact ⟨u, m :: v, hcut, by simpa using hm⟩
    | true =>
      obtain ⟨u', v', hwhole, hv'⟩ := hs (u ++ t) m v huv.symm (by simp [ht]) hm
      exact ⟨u' ++ u, v', by rw [hwhole, List.append_assoc, List.append_assoc], hv'⟩

/-- **No match ends in front of a mark exactly if there is none behind the first character**: what
stands before a mark is a match. -/
theorem never_cut_iff :
    (∀ (t u v : Text) (c : Char), t ≠ [] → fold .caseless s = u ++ (fold .caseless t ++ c :: v) →
        isMark c = false) ↔
      ∀ c ∈ (fold .caseless s).tail, isMark c = false := by
  constructor
  · intro hnever c hc
    obtain ⟨front, back, htail⟩ := List.append_of_mem hc
    obtain ⟨d, rest, hcons⟩ := List.exists_cons_of_ne_nil
      (fun hnil : fold .caseless s = [] => absurd hc (by simp [hnil]))
    have hcut : fold .caseless s = (d :: front) ++ c :: back := by
      rw [hcons, List.tail_cons] at htail
      rw [hcons, htail, List.cons_append]
    refine hnever (d :: front) [] back c (List.cons_ne_nil _ _) ?_
    rw [fold_caseless_front hcut, List.nil_append, hcut]
  · intro hnone t u v c ht hcut
    refine hnone c ?_
    obtain ⟨d, front, hfront⟩ := List.exists_cons_of_ne_nil
      (List.append_ne_nil_of_right_ne_nil u (fold_caseless_ne_nil ht))
    rw [hcut, ← List.append_assoc, hfront, List.cons_append, List.tail_cons]
    exact List.mem_append_right front List.mem_cons_self

end Text

open Text Unicode

theorem systemTagFilter_holds_iff {s t : Text} {n : Note} (hn : n.systemTags = some s) :
    (systemTagFilter t).holds n = true ↔ fold .caseless t <:+: fold .caseless s :=
  Pattern.contains_holds_iff hn

/-- **When a match is one of whole letters.** Let some text be the internal markers of a note.

* Where a match ends in front of a character, that character has no composite with the letter before
  it, or another mark stands between the two.
* Every pattern that the filter accepts occurs without a mark behind it exactly if what stands
  before each mark of the fold does.
* No match at all ends in front of a mark exactly if every mark of the text is taken in as it
  comes. -/
theorem systemTagFilter_whole_iff (s : Text) :
    (∀ (t u v : Text) (c : Char), fold .caseless s = u ++ (fold .caseless t ++ c :: v) →
      takenAfter? (u ++ fold .caseless t) c = none) ∧
    ((∀ (t : Text) (n : Note), t ≠ [] → n.systemTags = some s →
        (systemTagFilter t).holds n = true →
        OccursWhole (fold .caseless t) (fold .caseless s)) ↔
      ∀ (p v : Text) (m : Char), fold .caseless s = p ++ m :: v → p ≠ [] → isMark m = true →
        OccursWhole p (fold .caseless s)) ∧
    ((∀ (t u v : Text) (c : Char), t ≠ [] → fold .caseless s = u ++ (fold .caseless t ++ c :: v) →
        isMark c = false) ↔
      takesMarks (decomposed (lower s)) = true) := by
  refine ⟨fun t u v c h => ?_, ⟨fun hall p v m h hp hm => ?_, fun hall t n ht hn hholds => ?_⟩, ?_⟩
  · rw [← List.append_assoc] at h
    exact takenAfter?_of_fold_eq h
  · have hfront := fold_caseless_front h
    have hfound : (systemTagFilter p).holds
        (⟨none, none, false, some s, none⟩ : Note) = true := by
      rw [systemTagFilter_holds_iff rfl, hfront, h]
      exact (List.prefix_append p (m :: v)).isInfix
    rw [← hfront]
    exact hall p _ hp rfl hfound
  · exact OccursWhole.of_isInfix (fold_caseless_ne_nil ht)
      ((systemTagFilter_holds_iff hn).mp hholds) fun p m v => hall p v m
  · rw [takesMarks_iff, ← fold_caseless, never_cut_iff]

/-- The mark of `CAFÉ` is taken in, so patterns are found in it as wholes; the accent behind an x is
left because it has no composite with it. -/
theorem systemTagFilter_whole_iff_cafe :
    OccursWhole (fold .caseless "fe\u0301".toList) (fold .caseless "CAFÉ".toList) ∧
    takenAfter? (fold .caseless ['x']) '\u0301' = none := by
  have hnever := (systemTagFilter_whole_iff "CAFÉ".toList).2.2.mpr (by decide)
  refine ⟨?_, ?_⟩
  · refine (systemTagFilter_whole_iff "CAFÉ".toList).2.1.mpr (fun p v m h hp hm => ?_) _
      ⟨none, none, false, some "CAFÉ".toList, none⟩ (by decide) rfl (by decide +kernel)
    have hnone := hnever p [] v m hp (by rw [fold_caseless_front h, h, List.nil_append])
    exact absurd (hm.symm.trans hnone) (by decide)
  · exact (systemTagFilter_whole_iff "x\u0301".toList).1 ['x'] [] [] '\u0301' (by decide +kernel)

/-- **The letter x with an accent is found by its bare letter.** -/
theorem systemTagFilter_cuts_x_acute :
    (systemTagFilter ['x']).holds
      (⟨none, none, false, some "x\u0301".toList, none⟩ : Note) = true ∧
    ¬OccursWhole (fold .caseless ['x']) (fold .caseless "x\u0301".toList) := by
  refine ⟨by decide +kernel, ?_⟩
  rintro ⟨u, v, h, hv⟩
  have hfold : fold .caseless "x\u0301".toList = ['x', '\u0301'] := by decide +kernel
  have hletter : fold .caseless ['x'] = ['x'] := by decide
  rw [hfold, hletter] at h
  cases u with
  | nil =>
    obtain rfl : v = ['\u0301'] := by simpa using h.symm
    exact absurd (hv '\u0301' rfl) (by decide)
  | cons c u => cases u <;> simp at h

end NoteSieve
