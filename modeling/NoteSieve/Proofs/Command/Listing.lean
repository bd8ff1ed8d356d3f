import Mathlib.Data.List.Basic
import NoteSieve.Command.Run

/-!
# What a limit leaves

A search lists the records that pass its filter, in the order of the file, and a limit cuts the list
off. What that amounts to is said by places alone (`NoteSieve.IsListing`): a record that passes is
listed at the place that is the number of those that pass in front of it, if the limit goes that
far. So none is lost, none comes twice, and the order is the one of the file; **the records that a
search selects, cut off at the limit, are such a listing** (`NoteSieve.isListing_firstOf`), and
there is no other (`NoteSieve.isListing_iff`). A higher limit only adds to the end of it
(`NoteSieve.firstOf_prefix`).

Where something else is made of each record and some have nothing, it matters whether that is done
before or after the limit. `NoteSieve.filterMap_firstOf_eq_iff` tells when it makes no difference.
-/

namespace NoteSieve

variable {α β : Type} {limit : Option Nat} {records shown : List α}

/-! ### Listings -/

/-- **A listing** of the records that pass, up to a limit: each of them stands at the place that is
the number of those that pass in front of it, and nothing else is listed. -/
def IsListing (passes : α → Bool) (limit : Option Nat) (records shown : List α) : Prop :=
  ∀ k a, shown[k]? = some a ↔ (∀ n ∈ limit, k < n) ∧
    ∃ i, records[i]? = some a ∧ passes a = true ∧ (records.take i).countP passes = k

/-- **The place of what passes is the number of those in front of it.** -/
theorem getElem?_filter_eq_some_iff {passes : α → Bool} {k : Nat} {a : α} :
    (records.filter passes)[k]? = some a ↔
      ∃ i, records[i]? = some a ∧ passes a = true ∧ (records.take i).countP passes = k := by
  induction records generalizing k with
  | nil => simp
  | cons b records ih =>
    -- the first record, or one of the others a place further on
    rw [← Nat.or_exists_add_one]
    by_cases hb : passes b = true
    · rw [List.filter_cons_of_pos hb]
      cases k with
      | zero =>
        have hfirst : b = a → passes a = true := fun h => h ▸ hb
        simpa [hb] using hfirst
      | succ k => simp [hb, ih]
    · have hfirst : ¬(b = a ∧ passes a = true) := fun h => hb (h.1 ▸ h.2)
      rw [List.filter_cons_of_neg hb, ih]
      simp only [List.getElem?_cons_zero, Option.some.injEq, List.getElem?_cons_succ,
        List.take_succ_cons, List.countP_cons_of_neg hb]
      exact (or_iff_right fun h => hfirst ⟨h.1, h.2.1⟩).symm

/-- **What a search selects is listed up to the limit.** -/
theorem isListing_firstOf (passes : α → Bool) (limit : Option Nat) (records : List α) :
    IsListing passes limit records (firstOf limit (records.filter passes)) := by
  intro k a
  rw [← getElem?_filter_eq_some_iff]
  cases limit with
  | none => simp [firstOf]
  | some n => simp [firstOf, List.getElem?_take]

/-- There is one listing only. -/
theorem IsListing.eq {passes : α → Bool} {shown' : List α}
    (h : IsListing passes limit records shown) (h' : IsListing passes limit records shown') :
    shown = shown' :=
  List.ext_getElem? fun k => Option.ext fun a => (h k a).trans (h' k a).symm

/-- **The only listing** is what a search selects, cut off at the limit. -/
theorem isListing_iff {passes : α → Bool} :
    IsListing passes limit records shown ↔ shown = firstOf limit (records.filter passes) :=
  ⟨fun h => h.eq (isListing_firstOf passes limit records),
    fun h => h ▸ isListing_firstOf passes limit records⟩

/-! ### Limits -/

theorem length_firstOf_some (n : Nat) (records : List α) :
    (firstOf (some n) records).length = min n records.length := List.length_take

theorem length_firstOf (limit : Option Nat) (records : List α) :
    (firstOf limit records).length = min (limit.getD records.length) records.length := by
  cases limit with
  | none => exact (Nat.min_self _).symm
  | some n => exact length_firstOf_some n records

/-- **A lower limit lists a front of what a higher one does.** -/
theorem firstOf_prefix {m n : Nat} (h : m ≤ n) (records : List α) :
    firstOf (some m) records <+: firstOf (some n) records :=
  List.take_prefix_take_left h

theorem firstOf_prefix_self (limit : Option Nat) (records : List α) :
    firstOf limit records <+: records := by
  cases limit with
  | none => exact List.prefix_rfl
  | some n => exact List.take_prefix n records

/-! ### Before and after the limit -/

/-- The records that a limit leaves out. -/
def beyond (limit : Option Nat) (records : List α) : List α :=
  match limit with
  | none => []
  | some n => records.drop n

/-- Leaving out after the limit those for which there is nothing never gives more than before it. -/
theorem filterMap_firstOf_prefix (f : α → Option β) (limit : Option Nat) (records : List α) :
    (firstOf limit records).filterMap f <+: firstOf limit (records.filterMap f) := by
  cases limit with
  | none => exact List.prefix_rfl
  | some n =>
    have hlength : ((records.take n).filterMap f).length ≤ n :=
      Nat.le_trans (List.length_filterMap_le f _) (List.length_take_le n records)
    exact List.prefix_take_iff.mpr ⟨(List.take_prefix n records).filterMap f, hlength⟩

/-- Where there is something for each record, there is something unless there is no record. -/
theorem filterMap_ne_nil {f : α → Option β} (hsome : ∀ a ∈ records, (f a).isSome = true)
    (h : records ≠ []) : records.filterMap f ≠ [] := by
  obtain ⟨a, rest, rfl⟩ := List.exists_cons_of_ne_nil h
  intro hnil
  have hnone : f a = none := List.filterMap_eq_nil_iff.mp hnil a List.mem_cons_self
  simpa [hnone] using hsome a List.mem_cons_self

/-- Where a limit leaves no record, it leaves nothing that is made of them. -/
theorem firstOf_filterMap_eq_nil (f : α → Option β) (h : firstOf limit records = []) :
    firstOf limit (records.filterMap f) = [] := by
  cases limit with
  | none =>
    have hrecords : records = [] := h
    rw [hrecords]
    rfl
  | some n =>
    rcases List.take_eq_nil_iff.mp h with rfl | rfl
    · rfl
    · exact List.take_nil

/-- **When the limit may come first.** Leaving out those for which there is nothing gives the same
after the limit as before it exactly if there is something for each that is within the limit, or
nothing for any beyond it. -/
theorem filterMap_firstOf_eq_iff (f : α → Option β) (limit : Option Nat) (records : List α) :
    (firstOf limit records).filterMap f = firstOf limit (records.filterMap f) ↔
      (∀ a ∈ firstOf limit records, (f a).isSome = true) ∨
        ∀ a ∈ beyond limit records, f a = none := by
  cases limit with
  | none => simp [firstOf, beyond]
  | some n =>
    have hsplit : records.filterMap f
        = (records.take n).filterMap f ++ (records.drop n).filterMap f := by
      rw [← List.filterMap_append, List.take_append_drop]
    have hle : (records.take n).length ≤ n := List.length_take_le n records
    -- the limit is reached, or nothing is beyond it
    have hreached : (records.take n).length = n ∨ records.drop n = [] := by
      rw [List.length_take, List.drop_eq_nil_iff]
      omega
    change (records.take n).filterMap f = (records.filterMap f).take n ↔
      (∀ a ∈ records.take n, (f a).isSome = true) ∨ ∀ a ∈ records.drop n, f a = none
    rw [hsplit]
    generalize records.take n = front at hle hreached ⊢
    generalize records.drop n = rest at hreached ⊢
    have hlength := List.length_filterMap_le f front
    rw [← List.filterMap_length_eq_length, ← List.filterMap_eq_nil_iff, List.take_append,
      List.take_of_length_le (by omega), List.self_eq_append_right, List.take_eq_nil_iff]
    rcases hreached with h | rfl
    · refine or_congr_left ?_
      omega
    · simp

end NoteSieve
