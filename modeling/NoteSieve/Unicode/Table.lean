/-!
# Sorted tables

A property of characters is stored as a list of entries in ascending order, and read from the
front: the first entry that lies beyond the character looked for ends the search. The order is what
makes that sound, so every table of this folder is sorted, and a search never reads further than
the character's own place.

There are three shapes: runs with nothing attached (`covers`), runs with a value (`lookupRun`) and
single keys with a value (`lookup`). What a search finds is always an entry of the table.
-/

namespace NoteSieve.Unicode

/-- Whether a number lies in one of the runs of a sorted list. Both ends belong to a run. -/
def covers : List (Nat × Nat) → Nat → Bool
  | [], _ => false
  | (first, last) :: rest, n =>
    if n < first then false else if n ≤ last then true else covers rest n

/-- The value of the run of a sorted list in which a number lies. -/
def lookupRun {α : Type} : List (Nat × Nat × α) → Nat → Option α
  | [], _ => none
  | (first, last, value) :: rest, n =>
    if n < first then none else if n ≤ last then some value else lookupRun rest n

/-- The value of a key in a sorted list. -/
def lookup {α : Type} : List (Nat × α) → Nat → Option α
  | [], _ => none
  | (key, value) :: rest, n =>
    if n < key then none else if n = key then some value else lookup rest n

/-! ### What a search finds is in the table -/

theorem exists_run_of_covers {runs : List (Nat × Nat)} {n : Nat} (h : covers runs n = true) :
    ∃ run ∈ runs, run.1 ≤ n ∧ n ≤ run.2 := by
  fun_induction covers runs n with
  | case1 => simp at h
  | case2 => simp at h
  | case3 first last rest n h₁ h₂ => exact ⟨_, List.mem_cons_self, by simp; omega, h₂⟩
  | case4 first last rest n _ _ ih =>
    obtain ⟨run, hmem, hrun⟩ := ih h
    exact ⟨run, List.mem_cons_of_mem _ hmem, hrun⟩

theorem exists_run_of_lookupRun {α : Type} {runs : List (Nat × Nat × α)} {n : Nat} {value : α}
    (h : lookupRun runs n = some value) :
    ∃ run ∈ runs, run.1 ≤ n ∧ n ≤ run.2.1 ∧ run.2.2 = value := by
  fun_induction lookupRun runs n with
  | case1 => simp at h
  | case2 => simp at h
  | case3 first last v rest n h₁ h₂ =>
    exact ⟨_, List.mem_cons_self, by simp; omega, h₂, Option.some.inj h⟩
  | case4 first last v rest n _ _ ih =>
    obtain ⟨run, hmem, hrun⟩ := ih h
    exact ⟨run, List.mem_cons_of_mem _ hmem, hrun⟩

theorem mem_of_lookup {α : Type} {table : List (Nat × α)} {n : Nat} {value : α}
    (h : lookup table n = some value) : (n, value) ∈ table := by
  fun_induction lookup table n with
  | case1 => simp at h
  | case2 => simp at h
  | case3 => simp_all
  | case4 key v rest n _ _ ih => exact List.mem_cons_of_mem _ (ih h)

end NoteSieve.Unicode
