import NoteSieve.Proofs.Unicode.Code
import NoteSieve.Proofs.Unicode.Inert

/-!
# Hangul

The parts of a Hangul syllable are computed and not looked up, so what the passes through the tables
say (`NoteSieve.Proofs.Unicode.Code`) leaves the syllables out. Of them

* the tables say nothing: Hangul has no case and no class, is no mark, and stays as it is
  (`NoteSieve.Unicode.hangulFacts`);
* the arithmetic says the rest: a syllable is taken apart into letters, which have no parts
  (`NoteSieve.Unicode.letter_of_mem_decompose`, `NoteSieve.Unicode.decomposition_of_letter`).
-/

namespace NoteSieve.Unicode

variable {c d : Char} {n : Nat}

/-! ### What the tables say -/

/-- A code point among those of the Hangul letters and syllables. -/
def IsHangul (n : Nat) : Prop := (0x1100 ≤ n ∧ n < 0x1200) ∨ (0xAC00 ≤ n ∧ n < 0xD7A4)

theorem codeIsSyllable_iff : codeIsSyllable n = true ↔ 0xAC00 ≤ n ∧ n < 0xD7A4 := by
  rw [codeIsSyllable, Bool.and_eq_true, Nat.ble_eq, Nat.blt_eq]
  rfl

/-- A run without Hangul. -/
theorem not_isHangul_of_run {first last : Nat} (h : runWithoutHangul first last = true)
    (hn : IsHangul n) : ¬(first ≤ n ∧ n ≤ last) := by
  simp only [runWithoutHangul, Bool.and_eq_true, Bool.or_eq_true, Nat.blt_eq, Nat.ble_eq] at h
  rcases hn with hn | hn <;> omega

theorem not_covers_of_isHangul {runs : List (Nat × Nat)}
    (h : (runs.all fun (first, last) => runWithoutHangul first last) = true) (hn : IsHangul n) :
    covers runs n = false := by
  rw [← Bool.not_eq_true]
  intro hcovers
  obtain ⟨run, hmem, hrun⟩ := exists_run_of_covers hcovers
  exact not_isHangul_of_run (List.all_eq_true.mp h run hmem) hn hrun

/-- What the tables say of a Hangul letter or syllable. -/
structure HangulFacts (c : Char) : Prop where
  /-- It has no case. -/
  not_cased : isCased c = false
  /-- It is not passed over. -/
  not_ignorable : isCaseIgnorable c = false
  /-- It is no mark. -/
  not_mark : isMark c = false
  /-- It has no class. -/
  class_eq : combiningClass c = 0
  /-- It is its own lower case. -/
  lowerChar_self : lowerChar c = [c]
  /-- It has no entry in a table of decompositions. -/
  plain : codeIsPlain c.toNat = true

/-- **No table has a part for Hangul.** -/
theorem hangulFacts (hc : IsHangul c.toNat) : HangulFacts c := by
  obtain ⟨hentries, hclasses, hmarks, hcased, hignorable, hlower⟩ := tablesFit.without_hangul
  refine ⟨not_covers_of_isHangul hcased hc, not_covers_of_isHangul hignorable hc,
    not_covers_of_isHangul hmarks hc, ?_, ?_, ?_⟩
  · rw [combiningClass]
    cases hrun : lookupRun combiningClassRuns c.toNat with
    | none => rfl
    | some value =>
      obtain ⟨run, hmem, hfirst, hlast, -⟩ := exists_run_of_lookupRun hrun
      exact absurd ⟨hfirst, hlast⟩
        (not_isHangul_of_run (List.all_eq_true.mp hclasses run hmem) hc)
  · have hne : c ≠ '\u0130' := by
      rintro rfl
      rcases hc with hc | hc <;> exact absurd hc (by decide)
    rw [lowerChar, if_neg hne]
    rcases lowerCodePoint_cases lowerRuns c.toNat with h | ⟨run, hmem, hfirst, hlast, -⟩
    · rw [h, Char.ofNat_toNat]
    · exact absurd ⟨hfirst, hlast⟩
        (not_isHangul_of_run (List.all_eq_true.mp hlower run hmem) hc)
  · rcases codeIsPlain_or_mem c.toNat with h | h
    · exact h
    · exact absurd ⟨Nat.le_refl _, Nat.le_refl _⟩
        (not_isHangul_of_run (List.all_eq_true.mp hentries _ h) hc)

theorem isHangul_of_syllable (h : codeIsSyllable c.toNat = true) : IsHangul c.toNat :=
  Or.inr (codeIsSyllable_iff.mp h)

/-! ### What is computed -/

/-- The leading consonant and the vowel of the syllable at an offset. -/
def openSyllable (offset : Nat) : List Char :=
  [Char.ofNat (0x1100 + offset / (21 * 28)), Char.ofNat (0x1161 + offset % (21 * 28) / 28)]

theorem hangul_decompose_eq (h : codeIsSyllable c.toNat = true) :
    Hangul.decompose c = openSyllable (c.toNat - 0xAC00) ++
      if (c.toNat - 0xAC00) % 28 = 0 then []
      else [Char.ofNat (0x11A7 + (c.toNat - 0xAC00) % 28)] := by
  have hc : Hangul.syllableBase ≤ c.toNat ∧
      c.toNat < Hangul.syllableBase + Hangul.syllableCount := codeIsSyllable_iff.mp h
  rw [Hangul.decompose]
  dsimp only
  rw [if_pos hc]
  by_cases hnone : (c.toNat - Hangul.syllableBase) % Hangul.trailCount = 0
  · rw [if_pos hnone, if_pos (show (c.toNat - 0xAC00) % 28 = 0 from hnone)]
    rfl
  · rw [if_neg hnone, if_neg (show ¬(c.toNat - 0xAC00) % 28 = 0 from hnone)]
    rfl

theorem letter_toNat (h : 0x1100 ≤ n ∧ n < 0x1200) :
    0x1100 ≤ (Char.ofNat n).toNat ∧ (Char.ofNat n).toNat < 0x1200 := by
  rwa [toNat_ofNat_of_lt (by omega)]

/-- A syllable is taken apart into letters. -/
theorem letter_of_mem_decompose (h : codeIsSyllable c.toNat = true)
    (hd : d ∈ Hangul.decompose c) : 0x1100 ≤ d.toNat ∧ d.toNat < 0x1200 := by
  have hrange := codeIsSyllable_iff.mp h
  have hlead := letter_toNat (n := 0x1100 + (c.toNat - 0xAC00) / (21 * 28)) (by omega)
  have hvowel := letter_toNat (n := 0x1161 + (c.toNat - 0xAC00) % (21 * 28) / 28) (by omega)
  have htrail := letter_toNat (n := 0x11A7 + (c.toNat - 0xAC00) % 28) (by omega)
  rw [hangul_decompose_eq h, openSyllable] at hd
  simp only [List.cons_append, List.nil_append, List.mem_cons] at hd
  rcases hd with rfl | rfl | hd
  · exact hlead
  · exact hvowel
  · split at hd
    · exact absurd hd List.not_mem_nil
    · exact List.mem_singleton.mp hd ▸ htrail

theorem decomposition_of_syllable (h : codeIsSyllable c.toNat = true) :
    decomposition c = Hangul.decompose c := by
  obtain ⟨hsingleton, hproper⟩ :=
    codeIsPlain_iff.mp (hangulFacts (isHangul_of_syllable h)).plain
  rw [decomposition, hsingleton, hproper]

theorem decomposition_of_letter (h : 0x1100 ≤ c.toNat ∧ c.toNat < 0x1200) :
    decomposition c = [c] := by
  refine decomposition_of_plain (hangulFacts (Or.inl h)).plain ?_
  rw [← Bool.not_eq_true, codeIsSyllable_iff]
  omega

/-- The parts of the syllable at an offset. -/
theorem decomposition_of_offset (hn : n < 11172) (hc : c = Char.ofNat (0xAC00 + n)) :
    IsHangul c.toNat ∧ decomposition c = openSyllable n ++
      if n % 28 = 0 then [] else [Char.ofNat (0x11A7 + n % 28)] := by
  have hcode : c.toNat = 0xAC00 + n := by
    rw [hc]
    exact toNat_ofNat (by simp [codeIsValid]; omega)
  have hsyllable : codeIsSyllable c.toNat = true := codeIsSyllable_iff.mpr (by omega)
  refine ⟨isHangul_of_syllable hsyllable, ?_⟩
  rw [decomposition_of_syllable hsyllable, hangul_decompose_eq hsyllable, hcode,
    Nat.add_sub_cancel_left]

/-- The trailing consonant makes no difference to the rest of a syllable. -/
theorem openSyllable_eq {m n : Nat} (h : m / 28 = n / 28) : openSyllable m = openSyllable n := by
  have hlead : m / (21 * 28) = n / (21 * 28) := by omega
  have hvowel : m % (21 * 28) / 28 = n % (21 * 28) / 28 := by omega
  rw [openSyllable, openSyllable, hlead, hvowel]

end NoteSieve.Unicode
