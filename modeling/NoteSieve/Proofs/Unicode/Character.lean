import NoteSieve.Proofs.Unicode.Hangul
import NoteSieve.Proofs.Unicode.Order

/-!
# What is true of every character

The facts of the tables (`NoteSieve.Proofs.Unicode.Code`) and of Hangul
(`NoteSieve.Proofs.Unicode.Hangul`) carried over to all characters. A character is a syllable, whose
parts are computed, or it is plain and its own only part, or it has an entry in a table of
decompositions (`Kind`); a fact about parts is proved for the three kinds in this order.

What a normal form and a change of case rest on:

* parts have no parts (`decomposition_of_mem_decomposition`) and stand in order
  (`isOrdered_decomposition`);
* **the parts of the lower case are the lower case of the parts** (`lowerChar_flatMap`);
* a search for a letter with case sees the parts as it sees the character, from either side
  (`sight_decomposition`);
* what has a combining class is a mark, is its own lower case, and is no letter with case that a
  search would find (`isMark_of_class`, `lowerChar_of_class`, `sight_of_class`);
* a search sees the lower case as it sees the character (`sight_lowerChar`), marks are their own
  lower case and have marks as their parts, and no letter has a mark as its lower case
  (`lowerChar_of_isMark`, `isMark_of_mem_decomposition`, `isMark_of_mem_lowerChar`);
* a composite has the parts of the pair that it is written for, and is its own lower case if the
  first of them is (`compositeFacts`).
-/

namespace NoteSieve.Unicode

variable {a b c d : Char} {n : Nat} {s : List Char} {codes : List Nat}

/-! ### The three kinds of characters -/

/-- A character is a syllable, plain, or has an entry in a table of decompositions. -/
inductive Kind (c : Char) : Prop
  /-- The parts are computed. -/
  | syllable (hangul : IsHangul c.toNat) (parts : decomposition c ≠ [])
      (letters : ∀ d ∈ decomposition c, IsHangul d.toNat ∧ decomposition d = [d])
  /-- The character is its own only part. -/
  | plain (parts : decomposition c = [c]) (plain : codeIsPlain c.toNat = true)
      (not_syllable : codeIsSyllable c.toNat = false)
  /-- The parts are those of the entry. -/
  | entry (parts : decomposition c = (codeParts c.toNat).map Char.ofNat)
      (mem : (c.toNat, codeParts c.toNat) ∈ decompositions)
      (not_syllable : codeIsSyllable c.toNat = false)

theorem kind (c : Char) : Kind c := by
  cases hsyllable : codeIsSyllable c.toNat with
  | false =>
    rcases codeIsPlain_or_mem c.toNat with h | h
    · exact .plain (decomposition_of_plain h hsyllable) h hsyllable
    · exact .entry (decomposition_eq hsyllable) h hsyllable
  | true =>
    have hparts := decomposition_of_syllable hsyllable
    refine .syllable (isHangul_of_syllable hsyllable) ?_ fun d hd => ?_
    · rw [hparts, hangul_decompose_eq hsyllable]
      exact List.cons_ne_nil _ _
    · have hletter := letter_of_mem_decompose hsyllable (hparts ▸ hd)
      exact ⟨Or.inl hletter, decomposition_of_letter hletter⟩

/-! ### Parts -/

/-- What the passes through the tables say of a part. -/
structure IsPart (n : Nat) : Prop where
  /-- It is the code point of a character. -/
  valid : codeIsValid n = true
  /-- It has no entry. -/
  plain : codeIsPlain n = true
  /-- It is no syllable. -/
  not_syllable : codeIsSyllable n = false
  /-- It is no capital sigma. -/
  ne_sigma : n ≠ 0x3A3
  /-- It is no capital I with a dot. -/
  ne_dottedI : n ≠ 0x130

theorem IsPart.decomposition_ofNat (h : IsPart n) :
    decomposition (Char.ofNat n) = [Char.ofNat n] := by
  have hn := toNat_ofNat h.valid
  rw [decomposition_eq (by rw [hn, h.not_syllable]), hn, codeParts_of_plain h.plain]
  rfl

theorem IsPart.lowerChar_ofNat (h : IsPart n) :
    lowerChar (Char.ofNat n) = [Char.ofNat (codeLower n)] := by
  have hn := toNat_ofNat h.valid
  rw [lowerChar_eq, hn]
  intro hdotted
  exact h.ne_dottedI (hn.symm.trans (congrArg Char.toNat hdotted))

theorem isPart_of_mem {key : Nat} {parts : List Nat} (h : (key, parts) ∈ decompositions)
    (hn : n ∈ parts) : IsPart n := by
  have hentry := Bool.and_eq_true_iff.mp (List.all_eq_true.mp tablesFit.parts_plain _ h)
  have hall := List.all_eq_true.mp hentry.2 n hn
  simp only [Bool.and_eq_true, Bool.not_eq_true'] at hall
  obtain ⟨⟨⟨⟨hplain, hvalid⟩, hsyllable⟩, hsigma⟩, hdotted⟩ := hall
  exact ⟨hvalid, hplain, hsyllable, Nat.ne_of_beq_eq_false hsigma,
    Nat.ne_of_beq_eq_false hdotted⟩

theorem decomposition_ne_nil (c : Char) : decomposition c ≠ [] := by
  cases kind c with
  | syllable _ parts => exact parts
  | plain parts => exact parts ▸ List.cons_ne_nil c []
  | entry parts mem =>
    have hentry := Bool.and_eq_true_iff.mp (List.all_eq_true.mp tablesFit.parts_plain _ mem)
    rw [parts, ne_eq, List.map_eq_nil_iff]
    simpa using hentry.1

/-- **Parts have no parts.** -/
theorem decomposition_of_mem_decomposition (h : d ∈ decomposition c) : decomposition d = [d] := by
  cases kind c with
  | syllable _ _ letters => exact (letters d h).2
  | plain parts =>
    obtain rfl : d = c := List.mem_singleton.mp (parts ▸ h)
    exact parts
  | entry parts mem =>
    rw [parts] at h
    obtain ⟨n, hn, rfl⟩ := List.mem_map.mp h
    exact (isPart_of_mem mem hn).decomposition_ofNat

/-- A part that is a capital sigma is the whole character. -/
theorem eq_of_sigma_mem_decomposition (h : 'Σ' ∈ decomposition c) : c = 'Σ' := by
  cases kind c with
  | syllable _ _ letters => exact absurd (letters 'Σ' h).1 (by unfold IsHangul; decide)
  | plain parts => exact (List.mem_singleton.mp (parts ▸ h)).symm
  | entry parts mem =>
    rw [parts] at h
    obtain ⟨n, hn, hsigma⟩ := List.mem_map.mp h
    have hpart := isPart_of_mem mem hn
    have hcode := toNat_ofNat hpart.valid
    rw [hsigma] at hcode
    exact absurd hcode.symm hpart.ne_sigma

/-- The capital I with a dot is no part. -/
theorem dottedI_not_mem_decomposition : '\u0130' ∉ decomposition c := by
  intro h
  cases kind c with
  | syllable _ _ letters => exact absurd (letters _ h).1 (by unfold IsHangul; decide)
  | plain parts plain =>
    obtain rfl := List.mem_singleton.mp (parts ▸ h)
    exact absurd plain (by decide)
  | entry parts mem =>
    rw [parts] at h
    obtain ⟨n, hn, hdotted⟩ := List.mem_map.mp h
    have hpart := isPart_of_mem mem hn
    have hcode := toNat_ofNat hpart.valid
    rw [hdotted] at hcode
    exact absurd hcode.symm hpart.ne_dottedI

theorem isOrdered_of_class_eq (h : ∀ d ∈ s, combiningClass d = 0) : IsOrdered s := by
  induction s with
  | nil => exact List.isChain_nil
  | cons d s ih =>
    obtain ⟨-, hs⟩ := List.forall_mem_cons.mp h
    exact List.isChain_cons.mpr ⟨fun e he => Or.inl (hs e (List.mem_of_mem_head? he)), ih hs⟩

theorem isOrdered_map_ofNat (hvalid : ∀ m ∈ codes, codeIsValid m = true)
    (h : codesOrdered codes = true) : IsOrdered (codes.map Char.ofNat) := by
  induction codes with
  | nil => exact List.isChain_nil
  | cons m codes ih =>
    obtain ⟨hm, hcodes⟩ := List.forall_mem_cons.mp hvalid
    rw [codesOrdered, Bool.and_eq_true] at h
    refine List.isChain_cons.mpr ⟨?_, ih hcodes h.2⟩
    cases codes with
    | nil => exact fun _ he => absurd he (by simp)
    | cons k codes =>
      have hk := h.1
      rintro d ⟨⟩
      simp only [List.head?_cons, Option.all_some, Bool.or_eq_true, Nat.beq_eq, Nat.ble_eq] at hk
      rwa [InOrder, combiningClass_eq, combiningClass_eq, toNat_ofNat hm,
        toNat_ofNat (List.forall_mem_cons.mp hcodes).1]

/-- **The parts of a character are in order.** -/
theorem isOrdered_decomposition (c : Char) : IsOrdered (decomposition c) := by
  cases kind c with
  | syllable _ _ letters =>
    exact isOrdered_of_class_eq fun d hd => (hangulFacts (letters d hd).1).class_eq
  | plain parts =>
    rw [parts]
    exact List.isChain_singleton c
  | entry parts mem =>
    rw [parts]
    exact isOrdered_map_ofNat (fun m hm => (isPart_of_mem mem hm).valid)
      (List.all_eq_true.mp tablesFit.parts_ordered _ mem)

/-! ### Lower case -/

/-- What the changes of case say of the lower case of a character. -/
structure LowerFacts (c : Char) : Prop where
  /-- It is a character. -/
  valid : codeIsValid (codeLower c.toNat) = true
  /-- It has the class of the character. -/
  class_eq : codeClass (codeLower c.toNat) = codeClass c.toNat
  /-- It is its own lower case. -/
  lower_self : codeLower (codeLower c.toNat) = codeLower c.toNat
  /-- It is a syllable only if the character is one. -/
  not_syllable : codeIsSyllable c.toNat = false → codeIsSyllable (codeLower c.toNat) = false
  /-- It is plain if the character is. -/
  plain : codeIsPlain c.toNat = true → codeIsPlain (codeLower c.toNat) = true
  /-- It is no capital I with a dot, unless the character is. -/
  ne_dottedI : c.toNat ≠ 0x130 → codeLower c.toNat ≠ 0x130
  /-- It is the character itself, if that has a class. -/
  eq_self : combiningClass c ≠ 0 → codeLower c.toNat = c.toNat

theorem lowerFacts (c : Char) : LowerFacts c := by
  by_cases h : codeLower c.toNat = c.toNat
  · constructor <;> simp only [h, codeIsValid_toNat, implies_true, imp_self, ne_eq]
  · have hall := List.all_eq_true.mp tablesFit.moved_lower _ (mem_movedCodes h)
    simp only [Bool.and_eq_true, Bool.not_eq_true', Bool.or_eq_true, Nat.beq_eq] at hall
    obtain ⟨⟨⟨⟨⟨⟨hvalid, hsyllable⟩, hdotted⟩, hplain⟩, hclass⟩, hlowerClass⟩, hself⟩ := hall
    exact {
      valid := hvalid
      class_eq := hlowerClass.trans hclass.symm
      lower_self := hself
      not_syllable := fun _ => hsyllable
      plain := fun hc => hplain.resolve_left (by simp [hc])
      ne_dottedI := fun _ => Nat.ne_of_beq_eq_false hdotted
      eq_self := fun hc => absurd ((combiningClass_eq c).trans hclass) hc }

theorem class_of_mem_lowerChar (hc : c ≠ '\u0130') (h : d ∈ lowerChar c) :
    combiningClass d = combiningClass c := by
  rw [lowerChar_eq hc] at h
  obtain rfl := List.mem_singleton.mp h
  rw [combiningClass_eq, combiningClass_eq, toNat_ofNat (lowerFacts c).valid,
    (lowerFacts c).class_eq]

/-- **What has a combining class is its own lower case.** -/
theorem lowerChar_of_class (h : combiningClass c ≠ 0) : lowerChar c = [c] := by
  have hc : c ≠ '\u0130' := by
    rintro rfl
    exact h (by decide)
  rw [lowerChar_eq hc, (lowerFacts c).eq_self h, Char.ofNat_toNat]

/-- A lower case is its own lower case. -/
theorem lowerChar_of_mem_lowerChar (h : d ∈ lowerChar c) : lowerChar d = [d] := by
  by_cases hc : c = '\u0130'
  · subst hc
    have hd : d = 'i' ∨ d = '\u0307' := by simpa [lowerChar] using h
    rcases hd with rfl | rfl <;> decide
  · rw [lowerChar_eq hc] at h
    obtain rfl := List.mem_singleton.mp h
    have hcode := toNat_ofNat (lowerFacts c).valid
    rw [lowerChar_eq, hcode, (lowerFacts c).lower_self]
    intro hdotted
    refine (lowerFacts c).ne_dottedI (fun h => hc (Char.toNat_inj.mp h)) ?_
    rw [← hcode, hdotted]
    rfl

/-- A character is its own lower case exactly if its code point does not change. -/
theorem lowerChar_eq_self_iff :
    lowerChar c = [c] ↔ c ≠ '\u0130' ∧ codeLower c.toNat = c.toNat := by
  constructor
  · intro h
    have hc : c ≠ '\u0130' := by
      rintro rfl
      exact absurd h (by decide)
    rw [lowerChar_eq hc, List.singleton_inj] at h
    refine ⟨hc, ?_⟩
    rw [← toNat_ofNat (lowerFacts c).valid, h]
  · rintro ⟨hc, h⟩
    rw [lowerChar_eq hc, h, Char.ofNat_toNat]

theorem lowerChar_flatMap_eq (hc : c ≠ '\u0130') (hsyllable : codeIsSyllable c.toNat = false) :
    (lowerChar c).flatMap decomposition = (codeParts (codeLower c.toNat)).map Char.ofNat := by
  have hcode := toNat_ofNat (lowerFacts c).valid
  rw [lowerChar_eq hc, List.flatMap_singleton, decomposition_eq, hcode]
  rw [hcode]
  exact (lowerFacts c).not_syllable hsyllable

/-- **The parts of the lower case are the lower case of the parts.** -/
theorem lowerChar_flatMap (c : Char) :
    (lowerChar c).flatMap decomposition = (decomposition c).flatMap lowerChar := by
  by_cases hc : c = '\u0130'
  · subst hc
    decide +kernel
  cases kind c with
  | syllable hangul parts letters =>
    rw [(hangulFacts hangul).lowerChar_self, List.flatMap_singleton,
      List.flatMap_congr fun d hd => (hangulFacts (letters d hd).1).lowerChar_self,
      List.flatMap_singleton']
  | plain parts plain not_syllable =>
    rw [lowerChar_flatMap_eq hc not_syllable, codeParts_of_plain ((lowerFacts c).plain plain),
      parts, List.flatMap_singleton, lowerChar_eq hc]
    rfl
  | entry parts mem not_syllable =>
    -- Parts are no capital I with a dot, so each of them has a single character as its lower case.
    have hne : c.toNat ≠ 0x130 := fun h => hc (Char.toNat_inj.mp h)
    have hlower := List.all_eq_true.mp tablesFit.parts_lower _ mem
    simp only [Bool.or_eq_true, Nat.beq_eq, hne, false_or, beq_iff_eq] at hlower
    rw [lowerChar_flatMap_eq hc not_syllable, hlower, parts, List.flatMap_map,
      List.flatMap_congr fun n hn => (isPart_of_mem mem hn).lowerChar_ofNat, List.map_map,
      List.map_eq_flatMap]
    rfl

/-! ### The search for a letter with case -/

/-- What a search sees: whether the first character that is not passed over has case, if there is
one. -/
def sight (s : List Char) : Option Bool := (s.find? fun c => !isCaseIgnorable c).map isCased

theorem sight_append (s t : List Char) : sight (s ++ t) = (sight s).or (sight t) := by
  rw [sight, List.find?_append, Option.map_or]
  rfl

theorem casedFirst_eq (s : List Char) : casedFirst s = (sight s).getD false := by
  induction s with
  | nil => rfl
  | cons c s ih =>
    cases hc : isCaseIgnorable c with
    | true =>
      rw [casedFirst_cons_of_ignorable hc, ih, sight, sight, List.find?_cons_of_neg (by simp [hc])]
    | false =>
      rw [casedFirst_cons hc, sight, List.find?_cons_of_pos (by simp [hc])]
      rfl

/-- **What is seen in front decides how a search goes on.** -/
theorem casedFirst_append (s t : List Char) :
    casedFirst (s ++ t) = (sight s).getD (casedFirst t) := by
  rw [casedFirst_eq, casedFirst_eq, sight_append]
  cases sight s <;> rfl

theorem sight_map_ofNat (hvalid : ∀ m ∈ codes, codeIsValid m = true) :
    sight (codes.map Char.ofNat) = codeSight codes := by
  induction codes with
  | nil => rfl
  | cons m codes ih =>
    obtain ⟨hm, hcodes⟩ := List.forall_mem_cons.mp hvalid
    rw [List.map_cons, codeSight, ← ih hcodes, sight, List.find?_cons, isCaseIgnorable_eq,
      toNat_ofNat hm]
    cases codeIsIgnorable m with
    | true => rfl
    | false =>
      change some (isCased (Char.ofNat m)) = some (codeIsCased m)
      rw [isCased_eq, toNat_ofNat hm]

theorem sight_of_hangul (hs : s ≠ []) (h : ∀ d ∈ s, IsHangul d.toNat) : sight s = some false := by
  obtain ⟨d, s, rfl⟩ := List.exists_cons_of_ne_nil hs
  have hd := hangulFacts (h d List.mem_cons_self)
  rw [sight, List.find?_cons_of_pos (by simp [hd.not_ignorable]), Option.map_some, hd.not_cased]

/-- **The parts look like the character**, from either side. -/
theorem sight_decomposition (c : Char) :
    sight (decomposition c) = sight [c] ∧ sight (decomposition c).reverse = sight [c] := by
  cases kind c with
  | syllable hangul parts letters =>
    have hletters : ∀ d ∈ decomposition c, IsHangul d.toNat := fun d hd => (letters d hd).1
    rw [sight_of_hangul (List.cons_ne_nil c []) (by simpa using hangul),
      sight_of_hangul parts hletters,
      sight_of_hangul (by simpa using parts) (by simpa using hletters)]
    exact ⟨rfl, rfl⟩
  | plain parts =>
    rw [parts]
    exact ⟨rfl, rfl⟩
  | entry parts mem =>
    have hvalid : ∀ m ∈ codeParts c.toNat, codeIsValid m = true :=
      fun m hm => (isPart_of_mem mem hm).valid
    have hself : sight [c] = codeSight [c.toNat] := by
      rw [← sight_map_ofNat (by simpa using codeIsValid_toNat c), List.map_singleton,
        Char.ofNat_toNat]
    have hseen := List.all_eq_true.mp tablesFit.parts_sight _ mem
    simp only [Bool.and_eq_true, beq_iff_eq] at hseen
    rw [hself, parts, ← List.map_reverse, sight_map_ofNat hvalid,
      sight_map_ofNat (by simpa using hvalid)]
    exact hseen

/-- What changes in lower case is no mark and does not become one, and looks the same. -/
theorem movedFacts {n : Nat} (h : codeLower n ≠ n) :
    codeSight [codeLower n] = codeSight [n] ∧ codeIsMark n = false ∧
      codeIsMark (codeLower n) = false := by
  simpa [and_assoc] using List.all_eq_true.mp tablesFit.moved_sight _ (mem_movedCodes h)

/-- **The lower case looks like the character.** -/
theorem sight_lowerChar (c : Char) : sight (lowerChar c) = sight [c] := by
  by_cases hc : c = '\u0130'
  · subst hc
    decide
  have hself : ∀ m, codeIsValid m = true → sight [Char.ofNat m] = codeSight [m] := by
    intro m hm
    rw [← sight_map_ofNat (by simpa using hm), List.map_singleton]
  rw [lowerChar_eq hc, hself _ (lowerFacts c).valid, ← c.ofNat_toNat, hself _ (codeIsValid_toNat c),
    Char.ofNat_toNat]
  by_cases h : codeLower c.toNat = c.toNat
  · rw [h]
  · exact (movedFacts h).1

/-! ### Marks -/

/-- **A mark is its own lower case.** -/
theorem lowerChar_of_isMark (h : isMark c = true) : lowerChar c = [c] := by
  have hc : c ≠ '\u0130' := by
    rintro rfl
    exact absurd h (by decide)
  have hself : codeLower c.toNat = c.toNat := by
    by_contra hmoved
    rw [isMark_eq, (movedFacts hmoved).2.1] at h
    exact Bool.noConfusion h
  rw [lowerChar_eq hc, hself, Char.ofNat_toNat]

/-- No letter has a mark as its lower case, the capital I with a dot apart. -/
theorem isMark_of_mem_lowerChar (hc : c ≠ '\u0130') (h : d ∈ lowerChar c) :
    isMark d = isMark c := by
  rw [lowerChar_eq hc] at h
  obtain rfl := List.mem_singleton.mp h
  rw [isMark_eq, isMark_eq, toNat_ofNat (lowerFacts c).valid]
  by_cases hself : codeLower c.toNat = c.toNat
  · rw [hself]
  · rw [(movedFacts hself).2.1, (movedFacts hself).2.2]

/-- **The parts of a mark are marks.** -/
theorem isMark_of_mem_decomposition (h : isMark c = true) (hd : d ∈ decomposition c) :
    isMark d = true := by
  cases kind c with
  | syllable hangul =>
    rw [(hangulFacts hangul).not_mark] at h
    exact Bool.noConfusion h
  | plain parts =>
    obtain rfl : d = c := List.mem_singleton.mp (parts ▸ hd)
    exact h
  | entry parts mem =>
    rw [parts] at hd
    obtain ⟨n, hn, rfl⟩ := List.mem_map.mp hd
    have hmarks := List.all_eq_true.mp tablesFit.parts_marks _ mem
    rw [isMark_eq] at h
    simp only [h, Bool.not_true, Bool.false_or] at hmarks
    rw [isMark_eq, toNat_ofNat (isPart_of_mem mem hn).valid]
    exact List.all_eq_true.mp hmarks n hn

theorem facts_of_class (h : combiningClass c ≠ 0) :
    isMark c = true ∧ (isCaseIgnorable c = true ∨ isCased c = false) := by
  have hclass : (lookupRun combiningClassRuns c.toNat).getD 0 ≠ 0 := h
  cases hrun : lookupRun combiningClassRuns c.toNat with
  | none => simp [hrun] at hclass
  | some value =>
    obtain ⟨⟨first, last, _⟩, hmem, hfirst, hlast, -⟩ := exists_run_of_lookupRun hrun
    dsimp only at hfirst hlast
    have hall := List.all_eq_true.mp (List.all_eq_true.mp tablesFit.classes_marks _ hmem) c.toNat
      (List.mem_range'_1.mpr ⟨hfirst, by dsimp only; omega⟩)
    rw [isMark_eq, isCaseIgnorable_eq, isCased_eq]
    simpa [← Bool.not_eq_true] using hall

/-- **What has a combining class is a mark.** -/
theorem isMark_of_class (h : combiningClass c ≠ 0) : isMark c = true := (facts_of_class h).1

/-- **No search finds a letter with case in what has a combining class.** -/
theorem sight_of_class (h : combiningClass c ≠ 0) : sight [c] ≠ some true := by
  rw [sight, List.find?_singleton]
  rcases (facts_of_class h).2 with hc | hc
  · simp [hc]
  · cases isCaseIgnorable c <;> simp [hc]

/-! ### Composites -/

/-- What the compositions say of a pair and what it is written as. -/
structure CompositeFacts (a b c : Char) : Prop where
  /-- The composite has the parts of the first, then the second. -/
  parts : decomposition c = decomposition a ++ [b]
  /-- The second has no parts. -/
  second : decomposition b = [b]
  /-- The first has no class. -/
  first_class : combiningClass a = 0
  /-- The composite has no class. -/
  class_eq : combiningClass c = 0
  /-- The composite is a mark if the first is. -/
  isMark_eq : isMark c = isMark a
  /-- The composite is its own lower case if the first is. -/
  lower_self : lowerChar a = [a] → lowerChar c = [c]

/-- A leading consonant and a vowel are the parts of their syllable. -/
theorem compositeFacts_of_vowel (ha : 0x1100 ≤ a.toNat ∧ a.toNat < 0x1113)
    (hb : 0x1161 ≤ b.toNat ∧ b.toNat < 0x1176)
    (hc : c = Char.ofNat (0xAC00 + ((a.toNat - 0x1100) * 21 + (b.toNat - 0x1161)) * 28)) :
    CompositeFacts a b c := by
  obtain ⟨hhangul, hparts⟩ := decomposition_of_offset (by omega) hc
  have hlead : 0x1100 + ((a.toNat - 0x1100) * 21 + (b.toNat - 0x1161)) * 28 / (21 * 28)
      = a.toNat := by omega
  have hvowel : 0x1161 + ((a.toNat - 0x1100) * 21 + (b.toNat - 0x1161)) * 28 % (21 * 28) / 28
      = b.toNat := by omega
  have hfirst : IsHangul a.toNat := Or.inl (by omega)
  rw [if_pos (Nat.mul_mod_left _ _), openSyllable, hlead, hvowel, Char.ofNat_toNat,
    Char.ofNat_toNat, List.append_nil] at hparts
  exact {
    parts := by rw [hparts, decomposition_of_letter (by omega), List.singleton_append]
    second := decomposition_of_letter (by omega)
    first_class := (hangulFacts hfirst).class_eq
    class_eq := (hangulFacts hhangul).class_eq
    isMark_eq := by rw [(hangulFacts hhangul).not_mark, (hangulFacts hfirst).not_mark]
    lower_self := fun _ => (hangulFacts hhangul).lowerChar_self }

/-- A trailing consonant is the last part of the syllable that it is added to. -/
theorem compositeFacts_of_trail (ha : 0xAC00 ≤ a.toNat ∧ a.toNat < 0xD7A4)
    (hopen : (a.toNat - 0xAC00) % 28 = 0) (hb : 0x11A7 < b.toNat ∧ b.toNat < 0x11C3)
    (hc : c = Char.ofNat (a.toNat + (b.toNat - 0x11A7))) : CompositeFacts a b c := by
  obtain ⟨offset, hoffset⟩ : ∃ offset, a.toNat = 0xAC00 + offset := ⟨a.toNat - 0xAC00, by omega⟩
  have hfirst : codeIsSyllable a.toNat = true := codeIsSyllable_iff.mpr ha
  have hhangul := isHangul_of_syllable hfirst
  obtain ⟨-, hfirstParts⟩ := decomposition_of_offset (c := a) (n := offset) (by omega)
    (by rw [← hoffset, Char.ofNat_toNat])
  obtain ⟨hcomposite, hparts⟩ := decomposition_of_offset (c := c)
    (n := offset + (b.toNat - 0x11A7)) (by omega) (by rw [hc, hoffset, Nat.add_assoc])
  have htrail : 0x11A7 + (offset + (b.toNat - 0x11A7)) % 28 = b.toNat := by omega
  rw [if_pos (by omega), List.append_nil] at hfirstParts
  rw [if_neg (by omega), openSyllable_eq (n := offset) (by omega), ← hfirstParts, htrail,
    Char.ofNat_toNat] at hparts
  exact {
    parts := hparts
    second := decomposition_of_letter (by omega)
    first_class := (hangulFacts hhangul).class_eq
    class_eq := (hangulFacts hcomposite).class_eq
    isMark_eq := by rw [(hangulFacts hcomposite).not_mark, (hangulFacts hhangul).not_mark]
    lower_self := fun _ => (hangulFacts hcomposite).lowerChar_self }

theorem compositeFacts_of_hangul (h : Hangul.compose? a b = some c) : CompositeFacts a b c := by
  rw [Hangul.compose?] at h
  dsimp only at h
  split at h
  · next hcase =>
    obtain ⟨hle, hlt, hle', hlt'⟩ := hcase
    exact compositeFacts_of_vowel ⟨hle, hlt⟩ ⟨hle', hlt'⟩ (Option.some.inj h).symm
  · split at h
    · next hcase =>
      obtain ⟨hle, hlt, hopen, hle', hlt'⟩ := hcase
      exact compositeFacts_of_trail ⟨hle, hlt⟩ hopen ⟨hle', hlt'⟩ (Option.some.inj h).symm
    · exact absurd h (by simp)

/-- An entry for a pair of which the first is its own lower case is for a composite that is. -/
theorem lowerChar_of_pair {pairs : List (Nat × Nat)} {second composite : Nat}
    (hpairs : (a.toNat, pairs) ∈ compositions) (hpair : (second, composite) ∈ pairs)
    (hvalid : codeIsValid composite = true) (ha : lowerChar a = [a]) :
    lowerChar (Char.ofNat composite) = [Char.ofNat composite] := by
  have hlower := List.all_eq_true.mp tablesFit.pairs_lower _ hpairs
  simp only [(lowerChar_eq_self_iff.mp ha).2, Nat.beq_refl, Bool.not_true, Bool.false_or]
    at hlower
  have hself := List.all_eq_true.mp hlower _ hpair
  simp only [Bool.and_eq_true, Bool.not_eq_true', Nat.beq_eq] at hself
  have hcode := toNat_ofNat hvalid
  rw [lowerChar_eq_self_iff, hcode]
  refine ⟨fun hdotted => Nat.ne_of_beq_eq_false hself.1 ?_, hself.2⟩
  rw [← hcode, hdotted]
  rfl

/-- **A composite has the parts of the pair that it is written for.** -/
theorem compositeFacts (h : compose? a b = some c) : CompositeFacts a b c := by
  rcases compose?_eq_some h with h | ⟨pairs, composite, hpairs, hpair, rfl⟩
  · exact compositeFacts_of_hangul h
  · have hall := List.all_eq_true.mp (List.all_eq_true.mp tablesFit.pairs_parts _ hpairs) _ hpair
    simp only [Bool.and_eq_true, Bool.not_eq_true', beq_iff_eq, Nat.beq_eq] at hall
    obtain ⟨⟨⟨⟨⟨⟨⟨⟨hparts, hplain⟩, hvalid⟩, hfirst⟩, hsecond⟩, hcomposite⟩, hclass⟩, hclass'⟩,
      hmark⟩ := hall
    have hcode := toNat_ofNat hvalid
    constructor
    · rw [decomposition_eq (hcode.symm ▸ hcomposite), hcode, hparts, decomposition_eq hfirst,
        List.map_append, List.map_singleton, Char.ofNat_toNat]
    · exact decomposition_of_plain hplain hsecond
    · rw [combiningClass_eq, hclass]
    · rw [combiningClass_eq, hcode, hclass']
    · rw [isMark_eq, isMark_eq, hcode, hmark]
    · exact lowerChar_of_pair hpairs hpair hvalid

end NoteSieve.Unicode
