import NoteSieve.Proofs.Unicode.Inert
import NoteSieve.Unicode.Blank

/-!
# White space in lower case

A change of case has nothing to do with white space: the runs of one table lie apart from those of
the other, on both sides of the change (`NoteSieve.Unicode.lowerRun_apart`). So **a text has a white
space character in lower case exactly if it has that character**
(`NoteSieve.Unicode.mem_lower_iff_of_isBlank`).
-/

namespace NoteSieve.Unicode

variable {c d : Char} {s : List Char}

/-- No white space changes in lower case, and nothing turns into white space. -/
theorem lowerRuns_without_blank : (lowerRuns.all fun (first, last, _, target) =>
    blankRuns.all fun (low, high) =>
      (Nat.blt high first || Nat.blt last low) &&
        (Nat.blt high target || Nat.blt (target + (last - first)) low)) = true := by
  decide

/-- A run of lower case lies apart from the white space, on both sides of the change. -/
theorem lowerRun_apart {first last step target n : Nat}
    (hrun : (first, last, step, target) ∈ lowerRuns) (hn : covers blankRuns n = true) :
    (n < first ∨ last < n) ∧ (n < target ∨ target + (last - first) < n) := by
  obtain ⟨⟨low, high⟩, hmem, hlow, hhigh⟩ := exists_run_of_covers hn
  have h := List.all_eq_true.mp (List.all_eq_true.mp lowerRuns_without_blank _ hrun) _ hmem
  simp only [Bool.and_eq_true, Bool.or_eq_true, Nat.blt_eq] at h hlow hhigh
  omega

theorem lowerChar_of_isBlank (h : isBlank c = true) : lowerChar c = [c] := by
  have hdot : c ≠ '\u0130' := by
    rintro rfl
    exact absurd h (by decide)
  exact lowerChar_of_apart hdot fun _ _ _ _ hrun => (lowerRun_apart hrun h).1

/-- **Only white space is white space in lower case.** -/
theorem eq_of_isBlank_of_mem_lowerChar (hd : isBlank d = true) (h : d ∈ lowerChar c) : c = d := by
  have hne : d ≠ 'i' ∧ d ≠ '\u0307' ∧ d.toNat ≠ 0 := by
    refine ⟨?_, ?_, fun h0 => ?_⟩
    · rintro rfl
      exact absurd hd (by decide)
    · rintro rfl
      exact absurd hd (by decide)
    · rw [isBlank, h0] at hd
      exact absurd hd (by decide)
  exact eq_of_mem_lowerChar_of_apart hne (fun _ _ _ _ hrun => (lowerRun_apart hrun hd).2) h

/-- **A change of case neither makes nor loses white space.** -/
theorem mem_lower_iff_of_isBlank (hc : isBlank c = true) : c ∈ lower s ↔ c ∈ s := by
  have hfinal : c ≠ 'ς' := by
    rintro rfl
    exact absurd hc (by decide)
  exact mem_lowerFrom_iff (lowerChar_of_isBlank hc)
    (fun _ h => eq_of_isBlank_of_mem_lowerChar hc h) hfinal

end NoteSieve.Unicode
