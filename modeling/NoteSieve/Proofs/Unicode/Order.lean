import Mathlib.Data.List.Chain
import NoteSieve.Proofs.Unicode.Cut

/-!
# Marks in order

Taking a text apart ends with sorting its marks, by insertion from the right. A text is *ordered*
(`NoteSieve.Unicode.IsOrdered`) when no mark is followed by one of a smaller class. Sorting gives an
ordered text (`NoteSieve.Unicode.isOrdered_orderMarks`) and leaves an ordered one as it is
(`NoteSieve.Unicode.IsOrdered.orderMarks_eq`).

**Marks of different classes may change places before the text is sorted**
(`NoteSieve.Unicode.orderMarks_cons_append`). Composing moves a mark in just this way, from behind
marks of smaller classes to the starter that takes it in.
-/

namespace NoteSieve.Unicode

variable {c d : Char} {s t : List Char}

/-- Two neighbours of which the second need not stand before the first. -/
def InOrder (c d : Char) : Prop := combiningClass d = 0 ∨ combiningClass c ≤ combiningClass d

/-- **No mark is followed by one of a smaller class.** -/
def IsOrdered (s : List Char) : Prop := s.IsChain InOrder

theorem inOrder_iff :
    InOrder c d ↔ ¬(0 < combiningClass d ∧ combiningClass d < combiningClass c) := by
  rw [InOrder]
  omega

/-- An ordered text stays so without one of its marks, and without its first character. -/
theorem IsOrdered.erase (h : IsOrdered (s ++ c :: t)) (hc : combiningClass c ≠ 0 ∨ s = []) :
    IsOrdered (s ++ t) := by
  obtain ⟨hs, hback, hlink⟩ := List.isChain_append.mp h
  obtain ⟨hnext, ht⟩ := List.isChain_cons.mp hback
  refine List.isChain_append.mpr ⟨hs, ht, fun d hd e he => ?_⟩
  rcases hc with hc | rfl
  · have hdc := (hlink d hd c rfl).resolve_left hc
    exact (hnext e he).imp_right fun hce => Nat.le_trans hdc hce
  · exact absurd hd (by simp)

/-! ### Sorting -/

theorem orderMarks_append (s t : List Char) :
    orderMarks (s ++ t) = s.foldr insertMark (orderMarks t) := by
  induction s with
  | nil => rfl
  | cons c s ih => rw [List.cons_append, orderMarks, ih, List.foldr_cons]

theorem orderMarks_append_congr (h : orderMarks s = orderMarks t) (u : List Char) :
    orderMarks (u ++ s) = orderMarks (u ++ t) := by
  rw [orderMarks_append, orderMarks_append, h]

theorem insertMark_of_isOrdered (h : IsOrdered (c :: s)) : insertMark c s = c :: s := by
  cases s with
  | nil => rfl
  | cons d s => rw [insertMark, if_neg (inOrder_iff.mp (List.isChain_cons_cons.mp h).1)]

/-- **An ordered text is sorted already.** -/
theorem IsOrdered.orderMarks_eq (h : IsOrdered s) : orderMarks s = s := by
  induction s with
  | nil => rfl
  | cons c s ih => rw [orderMarks, ih (List.isChain_cons.mp h).2, insertMark_of_isOrdered h]

theorem head?_insertMark : ∀ d ∈ (insertMark c s).head?, d = c ∨ d ∈ s.head? := by
  cases s with
  | nil => simp [insertMark]
  | cons e s =>
    rw [insertMark]
    split
    · exact fun d hd => Or.inr hd
    · exact fun d hd => Or.inl (Option.some.inj hd).symm

theorem isOrdered_insertMark (h : IsOrdered s) : IsOrdered (insertMark c s) := by
  induction s with
  | nil => exact List.isChain_singleton c
  | cons d s ih =>
    obtain ⟨hd, hs⟩ := List.isChain_cons.mp h
    rw [insertMark]
    split
    · next hcross =>
      refine List.isChain_cons.mpr ⟨fun e he => ?_, ih hs⟩
      rcases head?_insertMark e he with rfl | he
      · exact Or.inr (by omega)
      · exact hd e he
    · next hstop => exact List.isChain_cons_cons.mpr ⟨inOrder_iff.mpr hstop, h⟩

theorem isOrdered_orderMarks (s : List Char) : IsOrdered (orderMarks s) := by
  induction s with
  | nil => exact List.isChain_nil
  | cons c s ih => exact isOrdered_insertMark ih

/-! ### Changing places -/

/-- Of two marks of different classes it does not matter which is put in first. -/
theorem insertMark_comm (hd : 0 < combiningClass d) (hc : combiningClass d < combiningClass c)
    (s : List Char) : insertMark c (insertMark d s) = insertMark d (insertMark c s) := by
  induction s with
  | nil =>
    change insertMark c [d] = insertMark d [c]
    rw [insertMark, if_pos ⟨hd, hc⟩, insertMark, insertMark, if_neg (by omega)]
  | cons e s ih =>
    by_cases hed : 0 < combiningClass e ∧ combiningClass e < combiningClass d
    · -- Both pass over `e`.
      have hec : 0 < combiningClass e ∧ combiningClass e < combiningClass c := ⟨hed.1, by omega⟩
      rw [insertMark, if_pos hed, insertMark, if_pos hec, insertMark, if_pos hec, ih, insertMark,
        if_pos hed]
    · -- The smaller one stays in front of `e`, wherever the greater one goes.
      have hstop : insertMark d (e :: s) = d :: e :: s := by rw [insertMark, if_neg hed]
      rw [hstop, insertMark, if_pos ⟨hd, hc⟩, insertMark]
      split
      · rw [insertMark, if_neg hed]
      · rw [insertMark, if_neg (by omega)]

/-- **A mark may be moved over marks of smaller classes**, which makes no difference to the sorted
text. -/
theorem orderMarks_cons_append
    (h : ∀ d ∈ s, 0 < combiningClass d ∧ combiningClass d < combiningClass c) (t : List Char) :
    orderMarks (c :: (s ++ t)) = orderMarks (s ++ c :: t) := by
  induction s with
  | nil => rfl
  | cons d s ih =>
    obtain ⟨hd, hs⟩ := List.forall_mem_cons.mp h
    have hrest : insertMark c (orderMarks (s ++ t)) = orderMarks (s ++ c :: t) := ih hs
    rw [List.cons_append, List.cons_append, orderMarks, orderMarks, insertMark_comm hd.1 hd.2,
      hrest, orderMarks]

/-- In an ordered text, marks in a row come by ascending class. -/
theorem IsOrdered.class_le (h : IsOrdered (s ++ [c])) (hc : combiningClass c ≠ 0)
    (hs : ∀ d ∈ s, combiningClass d ≠ 0) : ∀ d ∈ s, combiningClass d ≤ combiningClass c := by
  induction s with
  | nil => exact fun _ hd => absurd hd List.not_mem_nil
  | cons d s ih =>
    obtain ⟨hd, hsc⟩ := List.isChain_cons.mp h
    obtain ⟨-, hs⟩ := List.forall_mem_cons.mp hs
    refine List.forall_mem_cons.mpr ⟨?_, ih hsc hs⟩
    cases s with
    | nil => exact (hd c rfl).resolve_left hc
    | cons e s =>
      have hde := (hd e rfl).resolve_left (hs e List.mem_cons_self)
      exact Nat.le_trans hde (ih hsc hs e List.mem_cons_self)

end NoteSieve.Unicode
