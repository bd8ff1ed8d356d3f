import NoteSieve.Proofs.Unicode.Index
import NoteSieve.Unicode.Composition

/-!
# What the tables say of each other

The properties of a character are kept in separate tables, and what a normal form or a change of
case does to a text depends on how they fit together. Here each such fact is checked: by one pass
through a table, with the others searched by their indexes (`NoteSieve.Unicode.Index`). The checks
are about code points, and the last section says how a property of a character is one of its code
point; what follows for characters is in `NoteSieve.Proofs.Unicode.Character`. The results of all
passes are the fields of `NoteSieve.Unicode.TablesFit`:

| table that is gone through | what is checked of its entries | field |
|---|---|---|
| decompositions | the parts have no parts | `parts_plain` |
| | lower case may be taken before or after | `parts_lower` |
| | a search for a letter with case sees the parts as it sees the character | `parts_sight` |
| | the parts are in order | `parts_ordered` |
| | the parts of a mark are marks | `parts_marks` |
| changes of case | no part appears, nothing changes again | `moved_lower` |
| | a search for a letter with case sees no difference, and marks stay | `moved_sight` |
| combining classes | only marks have one, which are passed over or have no case | `classes_marks` |
| compositions | a composite has the parts of the pair | `pairs_parts` |
| all | no Hangul | `without_hangul` |
-/

namespace NoteSieve.Unicode

/-! ### Indexes -/

/-- The index of the characters that stand for one other character. -/
def singletonIndex : Index (keyRuns singletonDecompositions) :=
  ⟨11, by decide +kernel, by decide⟩

/-- The index of the characters that stand for several. -/
def properIndex : Index (keyRuns properDecompositions) :=
  ⟨11, by decide +kernel, by decide⟩

/-- The index of combining classes. -/
def classIndex : Index combiningClassRuns := ⟨9, by decide +kernel, by decide⟩

/-- The index of marks. -/
def markIndex : Index (valuedRuns markRuns) := ⟨9, by decide +kernel, by decide +kernel⟩

/-- The index of characters with case. -/
def casedIndex : Index (valuedRuns casedRuns) := ⟨8, by decide +kernel, by decide⟩

/-- The index of characters that are passed over. -/
def ignorableIndex : Index (valuedRuns caseIgnorableRuns) :=
  ⟨9, by decide +kernel, by decide⟩

/-- The index of changes of case. -/
def lowerIndex : Index (ruleRuns lowerRuns) := ⟨8, by decide +kernel, by decide +kernel⟩

/-! ### Properties of a code point -/

/-- Whether a code point has no entry in the tables of decompositions. -/
def codeIsPlain (n : Nat) : Bool :=
  (singletonIndex.find? n).isNone && (properIndex.find? n).isNone

/-- The parts of a code point that is no Hangul syllable. -/
def codeParts (n : Nat) : List Nat :=
  match singletonIndex.find? n with
  | some value => [value]
  | none => (properIndex.find? n).getD [n]

/-- The combining class of a code point. -/
def codeClass (n : Nat) : Nat := (classIndex.find? n).getD 0

/-- Whether a code point is a mark. -/
def codeIsMark (n : Nat) : Bool := (markIndex.find? n).isSome

/-- Whether a code point has case. -/
def codeIsCased (n : Nat) : Bool := (casedIndex.find? n).isSome

/-- Whether a code point is passed over. -/
def codeIsIgnorable (n : Nat) : Bool := (ignorableIndex.find? n).isSome

/-- The single lower case of a code point. -/
def codeLower (n : Nat) : Nat :=
  match lowerIndex.find? n with
  | none => n
  | some (first, step, target) => if (n - first) % step = 0 then target + (n - first) else n

/-- Whether a code point is that of a character. -/
def codeIsValid (n : Nat) : Bool := Nat.blt n 0xD800 || (Nat.blt 0xDFFF n && Nat.blt n 0x110000)

/-- Whether a code point is a Hangul syllable. -/
def codeIsSyllable (n : Nat) : Bool :=
  Nat.ble Hangul.syllableBase n && Nat.blt n (Hangul.syllableBase + Hangul.syllableCount)

theorem codeClass_eq (n : Nat) : codeClass n = (lookupRun combiningClassRuns n).getD 0 := by
  rw [codeClass, Index.find?_eq]

theorem codeIsMark_eq (n : Nat) : codeIsMark n = covers markRuns n := by
  rw [codeIsMark, Index.find?_eq, covers_eq]

theorem codeIsCased_eq (n : Nat) : codeIsCased n = covers casedRuns n := by
  rw [codeIsCased, Index.find?_eq, covers_eq]

theorem codeIsIgnorable_eq (n : Nat) : codeIsIgnorable n = covers caseIgnorableRuns n := by
  rw [codeIsIgnorable, Index.find?_eq, covers_eq]

theorem codeLower_eq (n : Nat) : codeLower n = lowerCodePoint lowerRuns n := by
  rw [codeLower, Index.find?_eq]
  exact (lowerCodePoint_eq lowerRuns n).symm

theorem codeParts_eq (n : Nat) :
    codeParts n =
      match lookup singletonDecompositions n with
      | some value => [value]
      | none => (lookup properDecompositions n).getD [n] := by
  rw [codeParts, Index.find?_eq, Index.find?_eq, lookup_eq, lookup_eq]

theorem codeIsPlain_iff {n : Nat} : codeIsPlain n = true ↔
    lookup singletonDecompositions n = none ∧ lookup properDecompositions n = none := by
  rw [codeIsPlain, Index.find?_eq, Index.find?_eq, ← lookup_eq, ← lookup_eq, Bool.and_eq_true,
    Option.isNone_iff_eq_none, Option.isNone_iff_eq_none]

theorem codeParts_of_plain {n : Nat} (h : codeIsPlain n = true) : codeParts n = [n] := by
  obtain ⟨hsingleton, hproper⟩ := codeIsPlain_iff.mp h
  rw [codeParts_eq, hsingleton, hproper]
  rfl

/-- The characters that can be taken apart, with their parts. -/
def decompositions : List (Nat × List Nat) :=
  singletonDecompositions.map (fun (key, value) => (key, [value])) ++ properDecompositions

/-- A code point is plain, or it has an entry that says what its parts are. -/
theorem codeIsPlain_or_mem (n : Nat) :
    codeIsPlain n = true ∨ (n, codeParts n) ∈ decompositions := by
  rw [codeParts_eq]
  cases hsingleton : lookup singletonDecompositions n with
  | some value =>
    exact Or.inr (List.mem_append_left _ (List.mem_map_of_mem (mem_of_lookup hsingleton)))
  | none =>
    cases hproper : lookup properDecompositions n with
    | some parts => exact Or.inr (List.mem_append_right _ (mem_of_lookup hproper))
    | none => exact Or.inl (codeIsPlain_iff.mpr ⟨hsingleton, hproper⟩)

/-- The code points that change in lower case. -/
def movedCodes : List Nat :=
  lowerRuns.flatMap fun (first, last, step, _) =>
    (List.range ((last - first) / step + 1)).map fun i => first + step * i

theorem mem_movedCodes {n : Nat} (h : codeLower n ≠ n) : n ∈ movedCodes := by
  rw [codeLower, Index.find?_eq] at h
  cases hrun : lookupRun (ruleRuns lowerRuns) n with
  | none => simp [hrun] at h
  | some rule =>
    obtain ⟨first, step, target⟩ := rule
    obtain ⟨rule, hmem, hfirst, hlast, hrule⟩ := exists_run_of_lookupRun hrun
    obtain ⟨⟨first', last, step', target'⟩, hrun', rfl⟩ := List.mem_map.mp hmem
    obtain ⟨rfl, rfl, rfl⟩ : first' = first ∧ step' = step ∧ target' = target := by
      simpa using hrule
    dsimp only at hfirst hlast
    have hstep : (n - first') % step' = 0 := by
      rcases Nat.eq_zero_or_pos ((n - first') % step') with hzero | hpos
      · exact hzero
      · simp [hrun, Nat.ne_of_gt hpos] at h
    refine List.mem_flatMap.mpr ⟨_, hrun', List.mem_map.mpr ⟨(n - first') / step', ?_, ?_⟩⟩
    · have := Nat.div_le_div_right (c := step') (show n - first' ≤ last - first' by omega)
      exact List.mem_range.mpr (by omega)
    · have := Nat.div_add_mod (n - first') step'
      omega

/-! ### One pass through each table -/

/-- Whether the first code point that is not passed over has case, if there is one. -/
def codeSight : List Nat → Option Bool
  | [] => none
  | n :: rest => if codeIsIgnorable n then codeSight rest else some (codeIsCased n)

/-- Whether no mark is followed by one of a smaller class. -/
def codesOrdered : List Nat → Bool
  | [] => true
  | m :: rest =>
    (rest.head?.all fun n => Nat.beq (codeClass n) 0 || Nat.ble (codeClass m) (codeClass n))
      && codesOrdered rest

/-- Whether a run has no Hangul letter and no Hangul syllable. -/
def runWithoutHangul (first last : Nat) : Bool :=
  (Nat.blt last 0x1100 || Nat.ble 0x1200 first) && (Nat.blt last 0xAC00 || Nat.ble 0xD7A4 first)

/-- **How the tables fit together.** -/
structure TablesFit : Prop where
  /-- There are parts; they are characters, cannot be taken apart, and are neither a capital sigma
  nor the capital I with a dot. -/
  parts_plain : (decompositions.all fun (_, parts) => !parts.isEmpty && parts.all fun n =>
    codeIsPlain n && codeIsValid n && !codeIsSyllable n && !Nat.beq n 0x3A3 && !Nat.beq n 0x130)
      = true
  /-- The parts of the lower case are the lower case of the parts. -/
  parts_lower : (decompositions.all fun (key, parts) =>
    Nat.beq key 0x130 || codeParts (codeLower key) == parts.map codeLower) = true
  /-- The parts look like the character, from either side. -/
  parts_sight : (decompositions.all fun (key, parts) =>
    codeSight parts == codeSight [key] && codeSight parts.reverse == codeSight [key]) = true
  /-- The parts are in order. -/
  parts_ordered : (decompositions.all fun (_, parts) => codesOrdered parts) = true
  /-- The parts of a mark are marks. -/
  parts_marks : (decompositions.all fun (key, parts) =>
    !codeIsMark key || parts.all codeIsMark) = true
  /-- What changes in lower case and what it changes to are no marks of a class; nothing changes
  twice, and a plain code point stays plain. -/
  moved_lower : (movedCodes.all fun n =>
    codeIsValid (codeLower n) && !codeIsSyllable (codeLower n) && !Nat.beq (codeLower n) 0x130
      && (!codeIsPlain n || codeIsPlain (codeLower n))
      && Nat.beq (codeClass n) 0 && Nat.beq (codeClass (codeLower n)) 0
      && Nat.beq (codeLower (codeLower n)) (codeLower n)) = true
  /-- What changes in lower case looks like what it changes to, and neither is a mark. -/
  moved_sight : (movedCodes.all fun n =>
    codeSight [codeLower n] == codeSight [n] && !codeIsMark n && !codeIsMark (codeLower n))
      = true
  /-- A code point with a class is a mark, and no search for a letter with case ends at it with
  success. -/
  classes_marks : (combiningClassRuns.all fun (first, last, _) =>
    (List.range' first (last + 1 - first)).all fun n =>
      codeIsMark n && (codeIsIgnorable n || !codeIsCased n)) = true
  /-- A composite has the parts of the first of the pair, then the second, which is plain; and it is
  a mark if the first is one. -/
  pairs_parts : (compositions.all fun (first, pairs) => pairs.all fun (second, composite) =>
    codeParts composite == codeParts first ++ [second] && codeIsPlain second
      && codeIsValid composite && !codeIsSyllable first && !codeIsSyllable second
      && !codeIsSyllable composite
      && Nat.beq (codeClass first) 0 && Nat.beq (codeClass composite) 0
      && codeIsMark composite == codeIsMark first) = true
  /-- A composite is its own lower case if the first of the pair is one. -/
  pairs_lower : (compositions.all fun (first, pairs) => !Nat.beq (codeLower first) first ||
    pairs.all fun (_, composite) =>
      !Nat.beq composite 0x130 && Nat.beq (codeLower composite) composite) = true
  /-- No table has an entry for a Hangul letter or a syllable. -/
  without_hangul :
    (decompositions.all fun (key, _) => runWithoutHangul key key) = true ∧
    (combiningClassRuns.all fun (first, last, _) => runWithoutHangul first last) = true ∧
    (markRuns.all fun (first, last) => runWithoutHangul first last) = true ∧
    (casedRuns.all fun (first, last) => runWithoutHangul first last) = true ∧
    (caseIgnorableRuns.all fun (first, last) => runWithoutHangul first last) = true ∧
    (lowerRuns.all fun (first, last, _, _) => runWithoutHangul first last) = true

/-- **The tables fit together.** All passes are made by one theorem, one after the other. -/
theorem tablesFit : TablesFit where
  parts_plain := by decide +kernel
  parts_lower := by decide +kernel
  parts_sight := by decide +kernel
  parts_ordered := by decide +kernel
  parts_marks := by decide +kernel
  moved_lower := by decide +kernel
  moved_sight := by decide +kernel
  classes_marks := by decide +kernel
  pairs_parts := by decide +kernel
  pairs_lower := by decide +kernel
  without_hangul := by decide +kernel

/-! ### Characters by their code points -/

section Character

variable {c : Char} {n : Nat}

theorem toNat_ofNat (h : codeIsValid n = true) : (Char.ofNat n).toNat = n := by
  have hvalid : n.isValidChar := by
    simpa [codeIsValid, Nat.isValidChar, Nat.blt_eq] using h
  have hchar : Char.ofNat n = Char.ofNatAux n hvalid := dif_pos hvalid
  rw [hchar]
  rfl

theorem toNat_ofNat_of_lt (h : n < 0xD800) : (Char.ofNat n).toNat = n :=
  toNat_ofNat (by rw [codeIsValid, Nat.blt_eq.mpr h, Bool.true_or])

theorem combiningClass_eq (c : Char) : combiningClass c = codeClass c.toNat := by
  rw [combiningClass, codeClass_eq]

theorem isMark_eq (c : Char) : isMark c = codeIsMark c.toNat := by
  rw [isMark, codeIsMark_eq]

theorem isCased_eq (c : Char) : isCased c = codeIsCased c.toNat := by
  rw [isCased, codeIsCased_eq]

theorem isCaseIgnorable_eq (c : Char) : isCaseIgnorable c = codeIsIgnorable c.toNat := by
  rw [isCaseIgnorable, codeIsIgnorable_eq]

theorem lowerChar_eq (h : c ≠ '\u0130') : lowerChar c = [Char.ofNat (codeLower c.toNat)] := by
  rw [lowerChar, if_neg h, codeLower_eq]

theorem decomposition_eq (h : codeIsSyllable c.toNat = false) :
    decomposition c = (codeParts c.toNat).map Char.ofNat := by
  rw [decomposition, codeParts_eq]
  cases lookup singletonDecompositions c.toNat with
  | some value => rfl
  | none =>
    cases lookup properDecompositions c.toNat with
    | some parts => rfl
    | none =>
      have hn : ¬(Hangul.syllableBase ≤ c.toNat ∧
          c.toNat < Hangul.syllableBase + Hangul.syllableCount) := by
        simpa [codeIsSyllable, Nat.ble_eq, Nat.blt_eq, ← Bool.not_eq_true] using h
      change Hangul.decompose c = [Char.ofNat c.toNat]
      rw [Hangul.decompose, Char.ofNat_toNat]
      exact if_neg hn

theorem decomposition_of_plain (hplain : codeIsPlain c.toNat = true)
    (hsyllable : codeIsSyllable c.toNat = false) : decomposition c = [c] := by
  rw [decomposition_eq hsyllable, codeParts_of_plain hplain, List.map_singleton, Char.ofNat_toNat]

theorem codeIsValid_toNat (c : Char) : codeIsValid c.toNat = true := by
  have h : c.toNat.isValidChar := c.valid
  simpa [codeIsValid, Nat.isValidChar, Nat.blt_eq] using h

end Character

end NoteSieve.Unicode
