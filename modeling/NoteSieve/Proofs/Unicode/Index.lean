import NoteSieve.Unicode.Case
import NoteSieve.Unicode.CombiningClass
import NoteSieve.Unicode.Decomposition
import NoteSieve.Unicode.Mark

/-!
# Sorted tables searched by halves

The tables of characters are read from the front, which is what their few readers need. A fact that
relates each entry of one table to entries of others – that the parts of a character have no parts,
that a lower case letter has the parts of the upper case one in lower case – would read every table
once for every entry of another, and the tables are too long for that.

As the tables are sorted (`NoteSieve.Unicode.isAscending`), a search may be done by halves instead:
`NoteSieve.Unicode.Index` is a way to search a list of runs, and **it finds what a search from the
front finds** (`NoteSieve.Unicode.Index.find?_eq`). The properties of characters are then functions
of a code point that are quick to compute: `codeParts`, `codeClass`, `codeLower` and three tests.
-/

namespace NoteSieve.Unicode

/-! ### Searching by halves -/

section Halves

variable {α : Type} {runs front rest : List (Nat × Nat × α)} {run : Nat × Nat × α} {low n : Nat}

/-- Whether runs are in ascending order from a number on, without overlaps. -/
def isAscending : Nat → List (Nat × Nat × α) → Bool
  | _, [] => true
  | low, (first, last, _) :: rest =>
    Nat.ble low first && Nat.ble first last && isAscending (last + 1) rest

/-- A search through the runs at the front of a list, one run fewer than the power of two, and the
runs that are left. The run in the middle decides in which half the search goes on. -/
def halved : Nat → List (Nat × Nat × α) → (Nat → Option α) × List (Nat × Nat × α)
  | 0, runs => (fun _ => none, runs)
  | depth + 1, runs =>
    match halved depth runs with
    | (left, []) => (left, [])
    | (left, (first, last, value) :: rest) =>
      match halved depth rest with
      | (right, rest) =>
        (fun n => bif Nat.blt n first then left n
          else bif Nat.ble n last then some value else right n, rest)

theorem cond_blt {β : Type} (m n : Nat) (a b : β) :
    (bif Nat.blt m n then a else b) = if m < n then a else b := by
  simp only [Bool.cond_eq_ite, Nat.blt_eq]

theorem cond_ble {β : Type} (m n : Nat) (a b : β) :
    (bif Nat.ble m n then a else b) = if m ≤ n then a else b := by
  simp only [Bool.cond_eq_ite, Nat.ble_eq]

theorem isAscending_cons (h : isAscending low (run :: rest) = true) :
    low ≤ run.1 ∧ run.1 ≤ run.2.1 ∧ isAscending (run.2.1 + 1) rest = true := by
  simpa [isAscending, and_assoc] using h

theorem le_of_isAscending (h : isAscending low runs = true) :
    ∀ run ∈ runs, low ≤ run.1 ∧ run.1 ≤ run.2.1 := by
  induction runs generalizing low with
  | nil => exact fun _ hrun => absurd hrun List.not_mem_nil
  | cons run rest ih =>
    obtain ⟨hlow, hle, hrest⟩ := isAscending_cons h
    refine List.forall_mem_cons.mpr ⟨⟨hlow, hle⟩, fun later hlater => ?_⟩
    have := ih hrest later hlater
    omega

theorem isAscending_of_append (h : isAscending low (front ++ rest) = true) :
    ∃ low, isAscending low rest = true := by
  induction front generalizing low with
  | nil => exact ⟨low, h⟩
  | cons run front ih => exact ih (isAscending_cons h).2.2

/-- In ascending order, the runs before another one end before it begins. -/
theorem lt_of_isAscending (h : isAscending low (front ++ run :: rest) = true) :
    ∀ earlier ∈ front, earlier.1 ≤ earlier.2.1 ∧ earlier.2.1 < run.1 := by
  induction front generalizing low with
  | nil => exact fun _ hrun => absurd hrun List.not_mem_nil
  | cons earlier front ih =>
    obtain ⟨-, hle, hfront⟩ := isAscending_cons h
    have hlt := (le_of_isAscending hfront run (by simp)).1
    exact List.forall_mem_cons.mpr ⟨⟨hle, by omega⟩, ih hfront⟩

theorem lookupRun_cons (first last : Nat) (value : α) (rest : List (Nat × Nat × α)) (n : Nat) :
    lookupRun ((first, last, value) :: rest) n
      = if n < first then none else if n ≤ last then some value else lookupRun rest n := rfl

/-- A search that ends before a run does not go beyond it. -/
theorem lookupRun_append_cons (h : n < run.1) (front rest : List (Nat × Nat × α)) :
    lookupRun (front ++ run :: rest) n = lookupRun front n := by
  induction front with
  | nil =>
    obtain ⟨first, last, value⟩ := run
    exact if_pos h
  | cons earlier front ih =>
    obtain ⟨first, last, value⟩ := earlier
    rw [List.cons_append, lookupRun_cons, lookupRun_cons, ih]

/-- A search passes over the runs that end before the number. -/
theorem lookupRun_append (h : ∀ run ∈ front, run.1 ≤ run.2.1 ∧ run.2.1 < n)
    (rest : List (Nat × Nat × α)) : lookupRun (front ++ rest) n = lookupRun rest n := by
  induction front with
  | nil => rfl
  | cons run front ih =>
    obtain ⟨first, last, value⟩ := run
    obtain ⟨hrun, hfront⟩ := List.forall_mem_cons.mp h
    dsimp only at hrun
    rw [List.cons_append, lookupRun_cons, if_neg (by omega), if_neg (by omega), ih hfront]

/-- **A search by halves is a search through the runs that it takes from the list.** -/
theorem exists_eq_halved_append (depth : Nat) (h : isAscending low runs = true) :
    ∃ front, runs = front ++ (halved depth runs).2 ∧
      ∀ n, (halved depth runs).1 n = lookupRun front n := by
  induction depth generalizing low runs with
  | zero => exact ⟨[], rfl, fun _ => rfl⟩
  | succ depth ih =>
    obtain ⟨front, hruns, hleft⟩ := ih h
    rw [halved]
    rcases hhalf : halved depth runs with ⟨left, - | ⟨⟨first, last, value⟩, rest⟩⟩
    · rw [hhalf] at hruns hleft
      exact ⟨front, hruns, hleft⟩
    · rw [hhalf] at hruns hleft
      dsimp only at hruns hleft
      rw [hruns] at h
      obtain ⟨_, hmiddle⟩ := isAscending_of_append h
      obtain ⟨back, hrest, hright⟩ := ih (isAscending_cons hmiddle).2.2
      refine ⟨front ++ (first, last, value) :: back, by simpa [← hrest] using hruns, fun n => ?_⟩
      change (bif Nat.blt n first then left n else bif Nat.ble n last then some value else _) = _
      rw [cond_blt, cond_ble, hleft, hright]
      by_cases hn : n < first
      · rw [if_pos hn, lookupRun_append_cons hn]
      · have hfront : ∀ run ∈ front, run.1 ≤ run.2.1 ∧ run.2.1 < n := fun run hrun => by
          have hlt := lt_of_isAscending h run hrun
          dsimp only at hlt
          omega
        rw [if_neg hn, lookupRun_append hfront, lookupRun_cons, if_neg hn]

end Halves

/-! ### Indexed tables -/

/-- **A way to search a list of runs by halves**, for a list that allows it. -/
structure Index {α : Type} (runs : List (Nat × Nat × α)) where
  /-- How often the list is halved. -/
  depth : Nat
  /-- The runs are in ascending order. -/
  ascending : isAscending 0 runs = true
  /-- No run is left over. -/
  whole : (halved depth runs).2.isEmpty = true

namespace Index

variable {α : Type} {runs : List (Nat × Nat × α)}

/-- The value of the run in which a number lies. -/
def find? (index : Index runs) : Nat → Option α := (halved index.depth runs).1

/-- **An index finds what a search from the front finds.** -/
theorem find?_eq (index : Index runs) (n : Nat) : index.find? n = lookupRun runs n := by
  obtain ⟨front, hruns, hfind⟩ := exists_eq_halved_append index.depth index.ascending
  rw [List.isEmpty_iff.mp index.whole, List.append_nil] at hruns
  rw [find?, hfind, ← hruns]

end Index

/-- Runs without a value, as runs with one. -/
def valuedRuns (runs : List (Nat × Nat)) : List (Nat × Nat × Unit) :=
  runs.map fun (first, last) => (first, last, ())

/-- Single keys, as runs of one number. -/
def keyRuns {α : Type} (table : List (Nat × α)) : List (Nat × Nat × α) :=
  table.map fun (key, value) => (key, key, value)

/-- Runs of a change of case, as runs whose value is all that a member needs: the first of the run,
the distance from one to the next, and the lower case of the first. -/
def ruleRuns (runs : List (Nat × Nat × Nat × Nat)) : List (Nat × Nat × Nat × Nat × Nat) :=
  runs.map fun (first, last, step, target) => (first, last, first, step, target)

theorem covers_eq (runs : List (Nat × Nat)) (n : Nat) :
    covers runs n = (lookupRun (valuedRuns runs) n).isSome := by
  induction runs with
  | nil => rfl
  | cons run rest ih =>
    obtain ⟨first, last⟩ := run
    change _ = (lookupRun ((first, last, ()) :: valuedRuns rest) n).isSome
    rw [covers, ih, lookupRun_cons]
    split
    · rfl
    · split <;> rfl

theorem lookup_eq {α : Type} (table : List (Nat × α)) (n : Nat) :
    lookup table n = lookupRun (keyRuns table) n := by
  induction table with
  | nil => rfl
  | cons entry rest ih =>
    obtain ⟨key, value⟩ := entry
    change _ = lookupRun ((key, key, value) :: keyRuns rest) n
    rw [lookup, ih, lookupRun_cons]
    split
    · rfl
    · by_cases hkey : n = key
      · rw [if_pos hkey, if_pos (by omega)]
      · rw [if_neg hkey, if_neg (by omega)]

theorem lowerCodePoint_eq (runs : List (Nat × Nat × Nat × Nat)) (n : Nat) :
    lowerCodePoint runs n =
      match lookupRun (ruleRuns runs) n with
      | none => n
      | some (first, step, target) =>
        if (n - first) % step = 0 then target + (n - first) else n := by
  induction runs with
  | nil => rfl
  | cons run rest ih =>
    obtain ⟨first, last, step, target⟩ := run
    change _ = match lookupRun ((first, last, first, step, target) :: ruleRuns rest) n with
      | none => n
      | some (first, step, target) => if (n - first) % step = 0 then target + (n - first) else n
    rw [lowerCodePoint, ih, lookupRun_cons]
    split
    · rfl
    · split <;> rfl

end NoteSieve.Unicode
