import Mathlib.Data.List.Basic
import NoteSieve.Unicode.Lower
import NoteSieve.Unicode.Mark
import NoteSieve.Unicode.Normal

/-!
# Characters that stay by themselves

Putting a text in lower case, taking it apart, sorting its marks and composing it again all look
at the neighbours of a character. Some characters have no part in any of this: the quote, the
backslash and the slash, the comma, the brackets and the white space of JSON. No other
character turns into one of them, they turn into nothing else, and they hide what is on one side of
them from what is on the other.

`NoteSieve.Unicode.IsInert` is that property, taken to pieces that a proof about one of the four
steps can use. **Every delimiter has it** (`NoteSieve.Unicode.isInert_of_delimiter`). This is read
off the tables, which are gone through once for all the delimiters together.
-/

namespace NoteSieve.Unicode

/-! ### What is inert -/

/-- **A character that stays by itself.** -/
structure IsInert (q : Char) : Prop where
  /-- It has no case. -/
  not_cased : isCased q = false
  /-- It is not passed over in the search for the letter next to a sigma. -/
  not_ignorable : isCaseIgnorable q = false
  /-- It is its own lower case. -/
  lowerChar_self : lowerChar q = [q]
  /-- It is the lower case of nothing else. -/
  eq_of_mem_lowerChar : ∀ c, q ∈ lowerChar c → c = q
  /-- It cannot be taken apart. -/
  decomposition_self : decomposition q = [q]
  /-- Nothing else has it as a part. -/
  eq_of_mem_decomposition : ∀ c, q ∈ decomposition c → c = q
  /-- It is no mark. -/
  not_mark : isMark q = false
  /-- Marks are not moved across it. -/
  combiningClass_eq : combiningClass q = 0
  /-- It takes nothing in. -/
  compose?_left : ∀ c, compose? q c = none
  /-- It is not taken in. -/
  compose?_right : ∀ c, compose? c q = none
  /-- No pair is written as it. -/
  compose?_ne : ∀ a b, compose? a b ≠ some q

/-! ### Delimiters -/

/-- The code points of the characters that an array is divided up by: quote, backslash, slash,
comma, brackets and the white space of JSON. -/
def delimiterCodePoints : List Nat := [0x9, 0xA, 0xD, 0x20, 0x22, 0x2C, 0x2F, 0x5B, 0x5C, 0x5D]

/-- Whether a run of code points has none of them. The first test keeps the second one short for
the many runs that lie beyond all of them. -/
def isFreeRun (first last : Nat) : Bool :=
  Nat.blt 0x5D first || delimiterCodePoints.all fun n => Nat.blt n first || Nat.blt last n

/-- Whether a code point is none of them. -/
def isFree (n : Nat) : Bool := isFreeRun n n

theorem not_mem_of_isFreeRun {first last n : Nat} (h : isFreeRun first last = true)
    (hn : n ∈ delimiterCodePoints) : n < first ∨ last < n := by
  rw [isFreeRun, Bool.or_eq_true, Nat.blt_eq, List.all_eq_true] at h
  rcases h with h | h
  · have hle : n ≤ 0x5D := by
      revert n
      decide
    omega
  · simpa [Nat.blt_eq] using h n hn

theorem ne_of_isFree {m n : Nat} (h : isFree m = true) (hn : n ∈ delimiterCodePoints) : m ≠ n := by
  have := not_mem_of_isFreeRun h hn
  omega

/-- The code points of the letters from a to z. -/
def letterCodePoints : List Nat := List.range' 0x61 26

/-! ### A pass through the tables -/

/-- No delimiter has a lower case or is one. -/
def lowerRunsFree : Bool :=
  lowerRuns.all fun (first, last, _, target) =>
    isFreeRun first last && isFreeRun target (target + (last - first))

/-- No delimiter stands for a character or the other way round. -/
def singletonDecompositionsFree : Bool :=
  singletonDecompositions.all fun (key, value) => isFree key && isFree value

/-- No delimiter is taken apart or a part. -/
def properDecompositionsFree : Bool :=
  properDecompositions.all fun (key, values) => isFree key && values.all isFree

/-- No delimiter is one of a pair or what a pair is written as. -/
def compositionsFree : Bool :=
  compositions.all fun (first, pairs) =>
    isFree first && pairs.all fun (second, composite) => isFree second && isFree composite

/-- **The tables have no delimiter in them**, the letters from a to z are neither changed nor
dropped, and every sigma has case. This is one theorem so that the tables are gone through once. -/
theorem tables_free :
    (lowerRunsFree && singletonDecompositionsFree && properDecompositionsFree &&
      compositionsFree) = true ∧
    (∀ n ∈ delimiterCodePoints, covers casedRuns n = false ∧ covers caseIgnorableRuns n = false ∧
      covers markRuns n = false ∧ lookupRun combiningClassRuns n = none) ∧
    (∀ n ∈ letterCodePoints, lowerCodePoint lowerRuns n = n ∧
      lookup singletonDecompositions n = none ∧ lookup properDecompositions n = none ∧
      covers markRuns n = false) ∧
    isCased 'Σ' = true ∧ isCased 'σ' = true ∧ isCased 'ς' = true := by
  decide +kernel

theorem tables_free_cases : lowerRunsFree = true ∧ singletonDecompositionsFree = true ∧
    properDecompositionsFree = true ∧ compositionsFree = true := by
  simpa [and_assoc] using tables_free.1

/-! ### Reading the tables -/

theorem eq_toNat_of_ofNat_eq {n : Nat} {q : Char} (hq : q.toNat ≠ 0) (h : Char.ofNat n = q) :
    n = q.toNat := by
  by_cases hvalid : n.isValidChar
  · have hchar : Char.ofNat n = Char.ofNatAux n hvalid := dif_pos hvalid
    rw [← h, hchar]
    rfl
  · have hchar : Char.ofNat n = '\x00' := dif_neg hvalid
    rw [← h, hchar] at hq
    exact absurd rfl hq

theorem lookup_eq_none {α : Type} {table : List (Nat × α)} {n : Nat}
    (h : ∀ entry ∈ table, entry.1 ≠ n) : lookup table n = none := by
  cases hv : lookup table n with
  | none => rfl
  | some value => exact absurd rfl (h _ (mem_of_lookup hv))

/-- A code point is its own lower case, or a run moves it to its place in the run of the lower
case. -/
theorem lowerCodePoint_cases (runs : List (Nat × Nat × Nat × Nat)) (n : Nat) :
    lowerCodePoint runs n = n ∨ ∃ run ∈ runs, run.1 ≤ n ∧ n ≤ run.2.1 ∧
      lowerCodePoint runs n = run.2.2.2 + (n - run.1) := by
  fun_induction lowerCodePoint runs n with
  | case1 => exact Or.inl rfl
  | case2 => exact Or.inl rfl
  | case3 first last step target rest n h₁ h₂ h₃ =>
    exact Or.inr ⟨_, List.mem_cons_self, by simp; omega, h₂, rfl⟩
  | case4 => exact Or.inl rfl
  | case5 first last step target rest n h₁ h₂ ih =>
    rcases ih with h | ⟨run, hmem, hrun⟩
    · exact Or.inl h
    · exact Or.inr ⟨run, List.mem_cons_of_mem _ hmem, hrun⟩

/-- Outside the runs of lower case a character is its own lower case. -/
theorem lowerChar_of_apart {c : Char} (hc : c ≠ '\u0130')
    (hruns : ∀ first last step target, (first, last, step, target) ∈ lowerRuns →
      c.toNat < first ∨ last < c.toNat) : lowerChar c = [c] := by
  rw [lowerChar, if_neg hc]
  rcases lowerCodePoint_cases lowerRuns c.toNat with
    hsame | ⟨⟨first, last, step, target⟩, hrun, h₁, h₂, -⟩
  · rw [hsame, Char.ofNat_toNat]
  · have hapart := hruns first last step target hrun
    dsimp only at h₁ h₂
    omega

/-- What no run moves a character to is the lower case of nothing but itself. -/
theorem eq_of_mem_lowerChar_of_apart {c d : Char} (hd : d ≠ 'i' ∧ d ≠ '\u0307' ∧ d.toNat ≠ 0)
    (hruns : ∀ first last step target, (first, last, step, target) ∈ lowerRuns →
      d.toNat < target ∨ target + (last - first) < d.toNat)
    (h : d ∈ lowerChar c) : c = d := by
  rw [lowerChar] at h
  split at h
  · rcases List.mem_pair.mp h with rfl | rfl
    · exact absurd rfl hd.1
    · exact absurd rfl hd.2.1
  · have hcode := eq_toNat_of_ofNat_eq hd.2.2 (List.mem_singleton.mp h).symm
    rcases lowerCodePoint_cases lowerRuns c.toNat with
      hsame | ⟨⟨first, last, step, target⟩, hrun, h₁, h₂, hmoved⟩
    · exact Char.toNat_inj.mp (hsame.symm.trans hcode)
    · have hapart := hruns first last step target hrun
      dsimp only at h₁ h₂ hmoved
      omega

/-- **A character that no change of case makes or takes away** is in the lower case of a text
exactly if it is in the text. -/
theorem mem_lowerFrom_iff {c : Char} {before s : List Char} (hself : lowerChar c = [c])
    (honly : ∀ d, c ∈ lowerChar d → d = c) (hfinal : c ≠ 'ς') : c ∈ lowerFrom before s ↔ c ∈ s := by
  have hcapital : lowerChar 'Σ' = ['σ'] := by decide
  have hsigma : c ≠ 'Σ' := by
    rintro rfl
    exact absurd (hself.symm.trans hcapital) (by decide)
  have hsmall : c ≠ 'σ' := by
    rintro rfl
    exact absurd (honly 'Σ' (hcapital ▸ List.mem_singleton_self 'σ')) (by decide)
  induction s generalizing before with
  | nil => rfl
  | cons d s ih =>
    have hrest : c ∈ lowerFrom (d :: before) s ↔ c ∈ s := ih
    rw [lowerFrom, List.mem_append, hrest, List.mem_cons]
    refine or_congr_left ?_
    split
    · next hd =>
      rw [List.mem_singleton, hd, iff_false_right hsigma]
      split
      · exact hfinal
      · exact hsmall
    · refine ⟨fun h => (honly d h).symm, ?_⟩
      rintro rfl
      rw [hself]
      exact List.mem_singleton_self c

section Delimiter

variable {n : Nat} {c q : Char}

/-- A run of lower case has no delimiter in it, on either side of the change. -/
theorem lowerRun_free {first last step target : Nat} (hn : n ∈ delimiterCodePoints)
    (hrun : (first, last, step, target) ∈ lowerRuns) :
    (n < first ∨ last < n) ∧ (n < target ∨ target + (last - first) < n) := by
  have h := Bool.and_eq_true_iff.mp (List.all_eq_true.mp tables_free_cases.1 _ hrun)
  exact ⟨not_mem_of_isFreeRun h.1 hn, not_mem_of_isFreeRun h.2 hn⟩

theorem delimiter_lt (hn : n ∈ delimiterCodePoints) : n ≠ 0 ∧ n < Hangul.leadBase := by
  revert n
  decide

theorem ofNat_eq_iff (hq : q.toNat ∈ delimiterCodePoints) : Char.ofNat n = q ↔ n = q.toNat := by
  constructor
  · exact eq_toNat_of_ofNat_eq (delimiter_lt hq).1
  · rintro rfl
    exact Char.ofNat_toNat q

/-- The letters of a syllable are Hangul letters. -/
theorem eq_of_mem_hangul_decompose (hq : q.toNat ∈ delimiterCodePoints)
    (h : q ∈ Hangul.decompose c) : c = q := by
  have hlt := (delimiter_lt hq).2
  have hlead : ∀ k, q ≠ Char.ofNat (Hangul.leadBase + k) := by
    intro k hk
    have := (ofNat_eq_iff hq).mp hk.symm
    omega
  have hvowel : ∀ k, q ≠ Char.ofNat (Hangul.vowelBase + k) := fun k => by
    have := hlead (Hangul.vowelBase - Hangul.leadBase + k)
    rwa [← Nat.add_assoc] at this
  have htrail : ∀ k, q ≠ Char.ofNat (Hangul.trailBase + k) := fun k => by
    have := hlead (Hangul.trailBase - Hangul.leadBase + k)
    rwa [← Nat.add_assoc] at this
  rw [Hangul.decompose] at h
  dsimp only at h
  split at h
  · split at h
    · simp [hlead, hvowel] at h
    · simp [hlead, hvowel, htrail] at h
  · exact (List.mem_singleton.mp h).symm

theorem hangul_decompose_self (h : q.toNat < Hangul.leadBase) : Hangul.decompose q = [q] := by
  have hbase : Hangul.leadBase ≤ Hangul.syllableBase := by decide
  rw [Hangul.decompose]
  dsimp only
  rw [if_neg (by omega)]

/-- A syllable is composed of Hangul characters, and is one. -/
theorem hangul_compose?_eq_some {a b : Char} (h : Hangul.compose? a b = some c) :
    Hangul.leadBase ≤ a.toNat ∧ Hangul.leadBase ≤ b.toNat ∧
      ∃ k, Hangul.leadBase ≤ k ∧ c = Char.ofNat k := by
  have hvowel : Hangul.leadBase ≤ Hangul.vowelBase := by decide
  have htrail : Hangul.leadBase ≤ Hangul.trailBase := by decide
  have hsyllable : Hangul.leadBase ≤ Hangul.syllableBase := by decide
  rw [Hangul.compose?] at h
  dsimp only at h
  split at h
  · next hcase =>
    exact ⟨hcase.1, by omega, _, by omega, (Option.some.inj h).symm⟩
  · split at h
    · next hcase =>
      exact ⟨by omega, by omega, _, by omega, (Option.some.inj h).symm⟩
    · exact absurd h (by simp)

theorem compose?_eq_some {a b : Char} (h : compose? a b = some c) :
    Hangul.compose? a b = some c ∨ ∃ pairs composite, (a.toNat, pairs) ∈ compositions ∧
      (b.toNat, composite) ∈ pairs ∧ c = Char.ofNat composite := by
  rw [compose?] at h
  split at h
  · next hangul => exact Or.inl (hangul.trans h)
  · obtain ⟨composite, hbind, rfl⟩ := Option.map_eq_some_iff.mp h
    obtain ⟨pairs, hpairs, hcomposite⟩ := Option.bind_eq_some_iff.mp hbind
    exact Or.inr ⟨pairs, composite, mem_of_lookup hpairs, mem_of_lookup hcomposite, rfl⟩

/-- A delimiter has no part in a composition: neither as one of the two characters nor as what they
are written as. -/
theorem compose?_ne_delimiter {a b : Char} (hq : q.toNat ∈ delimiterCodePoints)
    (h : compose? a b = some c) : a ≠ q ∧ b ≠ q ∧ c ≠ q := by
  have hlt := (delimiter_lt hq).2
  rcases compose?_eq_some h with h | ⟨pairs, composite, hpairs, hcomposite, rfl⟩
  · obtain ⟨ha, hb, k, hk, rfl⟩ := hangul_compose?_eq_some h
    refine ⟨?_, ?_, fun hc => ?_⟩
    · rintro rfl
      omega
    · rintro rfl
      omega
    · rw [ofNat_eq_iff hq] at hc
      omega
  · have hfree := Bool.and_eq_true_iff.mp (List.all_eq_true.mp tables_free_cases.2.2.2 _ hpairs)
    have hpair := Bool.and_eq_true_iff.mp (List.all_eq_true.mp hfree.2 _ hcomposite)
    refine ⟨?_, ?_, fun hc => ?_⟩
    · rintro rfl
      exact ne_of_isFree hfree.1 hq rfl
    · rintro rfl
      exact ne_of_isFree hpair.1 hq rfl
    · exact ne_of_isFree hpair.2 hq ((ofNat_eq_iff hq).mp hc)

theorem lookup_singletonDecompositions (hq : q.toNat ∈ delimiterCodePoints) :
    lookup singletonDecompositions q.toNat = none :=
  lookup_eq_none fun _ hentry => ne_of_isFree
    (Bool.and_eq_true_iff.mp (List.all_eq_true.mp tables_free_cases.2.1 _ hentry)).1 hq

theorem lookup_properDecompositions (hq : q.toNat ∈ delimiterCodePoints) :
    lookup properDecompositions q.toNat = none :=
  lookup_eq_none fun _ hentry => ne_of_isFree
    (Bool.and_eq_true_iff.mp (List.all_eq_true.mp tables_free_cases.2.2.1 _ hentry)).1 hq

theorem eq_of_mem_decomposition (hq : q.toNat ∈ delimiterCodePoints) (h : q ∈ decomposition c) :
    c = q := by
  rw [decomposition] at h
  split at h
  · next value hvalue =>
    have hfree := Bool.and_eq_true_iff.mp
      (List.all_eq_true.mp tables_free_cases.2.1 _ (mem_of_lookup hvalue))
    have hv := (ofNat_eq_iff hq).mp (List.mem_singleton.mp h).symm
    exact absurd hv (ne_of_isFree hfree.2 hq)
  · split at h
    · next values hvalues =>
      have hfree := Bool.and_eq_true_iff.mp
        (List.all_eq_true.mp tables_free_cases.2.2.1 _ (mem_of_lookup hvalues))
      obtain ⟨value, hvalue, hv⟩ := List.mem_map.mp h
      exact absurd ((ofNat_eq_iff hq).mp hv)
        (ne_of_isFree (List.all_eq_true.mp hfree.2 value hvalue) hq)
    · exact eq_of_mem_hangul_decompose hq h

theorem eq_of_mem_lowerChar (hq : q.toNat ∈ delimiterCodePoints) (h : q ∈ lowerChar c) :
    c = q := by
  have hne : q ≠ 'i' ∧ q ≠ '\u0307' := by
    constructor <;> rintro rfl <;> revert hq <;> decide
  exact eq_of_mem_lowerChar_of_apart ⟨hne.1, hne.2, (delimiter_lt hq).1⟩
    (fun _ _ _ _ hrun => (lowerRun_free hq hrun).2) h

theorem lowerChar_delimiter (hq : q.toNat ∈ delimiterCodePoints) : lowerChar q = [q] := by
  have hne : q ≠ '\u0130' := by
    rintro rfl
    revert hq
    decide
  exact lowerChar_of_apart hne fun _ _ _ _ hrun => (lowerRun_free hq hrun).1

end Delimiter

/-- **Delimiters stay by themselves.** -/
theorem isInert_of_delimiter {q : Char} (hq : q.toNat ∈ delimiterCodePoints) : IsInert q where
  not_cased := (tables_free.2.1 _ hq).1
  not_ignorable := (tables_free.2.1 _ hq).2.1
  lowerChar_self := lowerChar_delimiter hq
  eq_of_mem_lowerChar _ h := eq_of_mem_lowerChar hq h
  decomposition_self := by
    rw [decomposition, lookup_singletonDecompositions hq, lookup_properDecompositions hq]
    exact hangul_decompose_self (delimiter_lt hq).2
  eq_of_mem_decomposition _ h := eq_of_mem_decomposition hq h
  not_mark := (tables_free.2.1 _ hq).2.2.1
  combiningClass_eq := by
    rw [combiningClass, (tables_free.2.1 _ hq).2.2.2]
    rfl
  compose?_left c := Option.eq_none_iff_forall_ne_some.mpr fun _ h =>
    (compose?_ne_delimiter hq h).1 rfl
  compose?_right c := Option.eq_none_iff_forall_ne_some.mpr fun _ h =>
    (compose?_ne_delimiter hq h).2.1 rfl
  compose?_ne _ _ h := (compose?_ne_delimiter hq h).2.2 rfl

/-- **The letters from a to z** are their own lower case, have no parts and are no marks. -/
theorem letter_plain {c : Char} (hc : c.toNat ∈ letterCodePoints) :
    lowerChar c = [c] ∧ decomposition c = [c] ∧ isMark c = false := by
  obtain ⟨hlower, hsingleton, hproper, hmark⟩ := tables_free.2.2.1 _ hc
  have hlt : c.toNat < 0x7B := by
    have hrange := List.mem_range'_1.mp hc
    omega
  refine ⟨?_, ?_, hmark⟩
  · have hne : c ≠ '\u0130' := by
      rintro rfl
      exact absurd hlt (by decide)
    rw [lowerChar, if_neg hne, hlower, Char.ofNat_toNat]
  · rw [decomposition, hsingleton, hproper]
    exact hangul_decompose_self (Nat.lt_trans hlt (by decide))

theorem isInert_quote : IsInert '"' := isInert_of_delimiter (by decide)

theorem isInert_backslash : IsInert '\\' := isInert_of_delimiter (by decide)

theorem isInert_slash : IsInert '/' := isInert_of_delimiter (by decide)

theorem isInert_comma : IsInert ',' := isInert_of_delimiter (by decide)

theorem isInert_lineFeed : IsInert '\n' := isInert_of_delimiter (by decide)

end NoteSieve.Unicode
