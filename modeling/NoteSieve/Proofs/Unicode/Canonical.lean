import NoteSieve.Proofs.Unicode.Character

/-!
# Canonical equivalence

Two texts with the same decomposed form are spellings of one text. What a fold does is compatible
with that:

* **composing changes nothing but the spelling** (`decomposed_composed`);
* **the lower case of a spelling is a spelling of the lower case** (`decomposed_lower`), where the
  lower case is that of the whole text, with the rule for a final sigma.

The first is seen in the walk over the decomposed text: the marks that wait are of smaller classes
than the one that the starter takes in, so that one may be moved to the front of them. The second
has two steps, as the decomposed form has: characters are taken apart, which the search for a letter
next to a sigma does not notice, and marks are moved over each other, which have no case.
-/

namespace NoteSieve.Unicode

variable {c d starter : Char} {s t before before' rest waiting : List Char}

/-! ### Taken apart -/

/-- A text whose characters are their own only parts. -/
def IsApart (s : List Char) : Prop := ∀ c ∈ s, decomposition c = [c]

theorem IsApart.flatMap_eq (h : IsApart s) : s.flatMap decomposition = s := by
  rw [List.flatMap_congr h, List.flatMap_singleton']

theorem isApart_cons : IsApart (c :: s) ↔ decomposition c = [c] ∧ IsApart s :=
  List.forall_mem_cons

theorem isApart_append : IsApart (s ++ t) ↔ IsApart s ∧ IsApart t := List.forall_mem_append

theorem isApart_flatMap (s : List Char) : IsApart (s.flatMap decomposition) := by
  intro d hd
  obtain ⟨c, -, hd⟩ := List.mem_flatMap.mp hd
  exact decomposition_of_mem_decomposition hd

theorem isApart_decomposed (s : List Char) : IsApart (decomposed s) :=
  fun d hd => isApart_flatMap s d (mem_orderMarks.mp hd)

theorem isOrdered_decomposed (s : List Char) : IsOrdered (decomposed s) := isOrdered_orderMarks _

/-! ### Composing -/

/-- A step of the walk on which the starter takes a character in. -/
theorem composeFrom_of_absorb? {composite : Char}
    (h : absorb? starter waiting c = some composite) (rest : List Char) :
    composeFrom starter waiting (c :: rest) = composeFrom composite waiting rest := by
  rw [composeFrom_cons, h]

/-- A step on which another starter comes. -/
theorem composeFrom_of_starter (h : absorb? starter waiting c = none)
    (hc : combiningClass c = 0) (rest : List Char) :
    composeFrom starter waiting (c :: rest)
      = starter :: (waiting.reverse ++ composeFrom c [] rest) := by
  rw [composeFrom_cons, h]
  exact if_pos hc

/-- A step on which a mark has to wait. -/
theorem composeFrom_of_mark (h : absorb? starter waiting c = none) (hc : combiningClass c ≠ 0)
    (rest : List Char) :
    composeFrom starter waiting (c :: rest) = composeFrom starter (c :: waiting) rest := by
  rw [composeFrom_cons, h]
  exact if_neg hc

/-- A walk makes a starter, then the marks that wait, then more. -/
theorem exists_composeFrom_eq (starter : Char) (waiting rest : List Char) :
    ∃ head out, composeFrom starter waiting rest = head :: (waiting.reverse ++ out) := by
  induction rest generalizing starter waiting with
  | nil => exact ⟨starter, [], by rw [List.append_nil]; rfl⟩
  | cons c rest ih =>
    cases habsorb : absorb? starter waiting c with
    | some composite =>
      rw [composeFrom_of_absorb? habsorb]
      exact ih composite waiting
    | none =>
      by_cases hclass : combiningClass c = 0
      · exact ⟨starter, composeFrom c [] rest, composeFrom_of_starter habsorb hclass rest⟩
      · obtain ⟨head, out, heq⟩ := ih starter (c :: waiting)
        exact ⟨head, c :: out, by simp [composeFrom_of_mark habsorb hclass, heq]⟩

/-- What a starter takes in is of a greater class than all marks that wait. -/
theorem class_lt_of_absorb? {composite : Char} (h : absorb? starter waiting c = some composite)
    (hmarks : ∀ d ∈ waiting, combiningClass d ≠ 0) (hordered : IsOrdered waiting.reverse) :
    ∀ d ∈ waiting, 0 < combiningClass d ∧ combiningClass d < combiningClass c := by
  cases waiting with
  | nil => exact fun _ hd => absurd hd List.not_mem_nil
  | cons w waiting =>
    obtain ⟨hw, hwaiting⟩ := List.forall_mem_cons.mp hmarks
    have hlt : combiningClass w < combiningClass c := by
      rw [absorb?, isBlocked] at h
      split at h
      · exact absurd h (by simp)
      · next hblocked => simpa using hblocked
    rw [List.reverse_cons] at hordered
    have hle := hordered.class_le hw fun d hd => hwaiting d (List.mem_reverse.mp hd)
    refine List.forall_mem_cons.mpr ⟨⟨by omega, hlt⟩, fun d hd => ?_⟩
    have := hle d (List.mem_reverse.mpr hd)
    have := hwaiting d hd
    omega

/-- What is taken in past marks that wait has a class. -/
theorem class_ne_zero_of_absorb? {composite : Char}
    (h : absorb? starter waiting c = some composite) :
    combiningClass c ≠ 0 ∨ waiting.reverse = [] := by
  cases waiting with
  | nil => exact Or.inr rfl
  | cons w waiting =>
    refine Or.inl fun hzero => ?_
    rw [absorb?, isBlocked, hzero, decide_eq_true (Nat.zero_le _), if_pos rfl] at h
    exact absurd h (by simp)

/-- **The walk over a decomposed text changes nothing but the spelling.** The marks that wait and
what is still to come are in order, all the while. -/
theorem orderMarks_composeFrom (starter : Char) (waiting : List Char)
    (hapart : IsApart (waiting.reverse ++ rest)) (hmarks : ∀ d ∈ waiting, combiningClass d ≠ 0)
    (hordered : IsOrdered (waiting.reverse ++ rest)) :
    orderMarks ((composeFrom starter waiting rest).flatMap decomposition) =
      orderMarks (decomposition starter ++ (waiting.reverse ++ rest)) := by
  induction rest generalizing starter waiting with
  | nil =>
    rw [List.append_nil] at hapart ⊢
    rw [composeFrom, List.flatMap_cons, hapart.flatMap_eq]
  | cons c rest ih =>
    obtain ⟨hwaiting, hcrest⟩ := isApart_append.mp hapart
    obtain ⟨hc, hrest⟩ := isApart_cons.mp hcrest
    cases habsorb : absorb? starter waiting c with
    | some composite =>
      -- In the parts of the composite `c` stands before the marks that wait. They are of smaller
      -- classes, so it may be moved back behind them.
      have hfacts := compositeFacts (absorb?_eq_some habsorb)
      have hlt := class_lt_of_absorb? habsorb hmarks (List.isChain_append.mp hordered).1
      have hlt' : ∀ d ∈ waiting.reverse,
          0 < combiningClass d ∧ combiningClass d < combiningClass c :=
        fun d hd => hlt d (List.mem_reverse.mp hd)
      have hnext := ih composite waiting (isApart_append.mpr ⟨hwaiting, hrest⟩) hmarks
        (hordered.erase (class_ne_zero_of_absorb? habsorb))
      rw [composeFrom_of_absorb? habsorb, hnext, hfacts.parts, List.append_assoc,
        List.singleton_append]
      exact orderMarks_append_congr (orderMarks_cons_append hlt' rest) _
    | none =>
      by_cases hclass : combiningClass c = 0
      · have hback := (List.isChain_append.mp hordered).2.1
        have hnext := ih c [] hrest (by simp) (List.isChain_cons.mp hback).2
        rw [composeFrom_of_starter habsorb hclass, List.flatMap_cons, List.flatMap_append,
          hwaiting.flatMap_eq, ← List.append_assoc, ← List.append_assoc]
        refine orderMarks_append_congr ?_ _
        rw [hnext, hc]
        rfl
      · have hnext := ih starter (c :: waiting)
        simp only [List.reverse_cons, List.append_assoc, List.singleton_append] at hnext
        rw [composeFrom_of_mark habsorb hclass]
        exact hnext hapart (List.forall_mem_cons.mpr ⟨hclass, hmarks⟩) hordered

theorem orderMarks_compose (hapart : IsApart s) (hordered : IsOrdered s) :
    orderMarks ((compose s).flatMap decomposition) = s := by
  induction s with
  | nil => rfl
  | cons c s ih =>
    obtain ⟨hc, hs⟩ := isApart_cons.mp hapart
    have hrest := (List.isChain_cons.mp hordered).2
    rw [compose]
    split
    · rw [orderMarks_composeFrom c [] hs (by simp) hrest, hc]
      exact hordered.orderMarks_eq
    · rw [List.flatMap_cons, hc, List.singleton_append, orderMarks, ih hs hrest,
        insertMark_of_isOrdered hordered]

/-- **Composing changes nothing but the spelling**: the decomposed form of the composed form is
the decomposed form. -/
theorem decomposed_composed (s : List Char) : decomposed (composed s) = decomposed s :=
  orderMarks_compose (isApart_decomposed s) (isOrdered_decomposed s)

/-! ### What a sigma sees -/

theorem casedFirst_cons_eq (c : Char) (s : List Char) :
    casedFirst (c :: s) = (sight [c]).getD (casedFirst s) := casedFirst_append [c] s

theorem casedFirst_cons_congr (h : casedFirst s = casedFirst t) (c : Char) :
    casedFirst (c :: s) = casedFirst (c :: t) := by
  rw [casedFirst_cons_eq, casedFirst_cons_eq, h]

/-- Lower case depends on what stands before a text only by the letter that a sigma sees there. -/
theorem lowerFrom_congr (h : casedFirst before = casedFirst before') (s : List Char) :
    lowerFrom before s = lowerFrom before' s := by
  induction s generalizing before before' with
  | nil => rfl
  | cons c s ih => rw [lowerFrom, lowerFrom, endsWord, endsWord, h, ih (casedFirst_cons_congr h c)]

theorem casedFirst_flatMap (s : List Char) :
    casedFirst (s.flatMap decomposition) = casedFirst s := by
  induction s with
  | nil => rfl
  | cons c s ih =>
    rw [List.flatMap_cons, casedFirst_append, (sight_decomposition c).1, ih, casedFirst_cons_eq]

/-- In whichever order two marks with a class stand, a search sees the same. -/
theorem casedFirst_swap (hc : combiningClass c ≠ 0) (hd : combiningClass d ≠ 0) (s : List Char) :
    casedFirst (c :: d :: s) = casedFirst (d :: c :: s) := by
  have hcSight := sight_of_class hc
  have hdSight := sight_of_class hd
  rw [casedFirst_cons_eq, casedFirst_cons_eq, casedFirst_cons_eq d, casedFirst_cons_eq c]
  generalize sight [c] = x at hcSight ⊢
  generalize sight [d] = y at hdSight ⊢
  rcases x with _ | _ | _ <;> rcases y with _ | _ | _ <;> first | rfl | contradiction

theorem casedFirst_insertMark (c : Char) (s : List Char) :
    casedFirst (insertMark c s) = casedFirst (c :: s) := by
  induction s with
  | nil => rfl
  | cons d s ih =>
    rw [insertMark]
    split
    · next hcross => rw [casedFirst_cons_congr ih, casedFirst_swap (by omega) (by omega)]
    · rfl

theorem casedFirst_orderMarks (s : List Char) : casedFirst (orderMarks s) = casedFirst s := by
  induction s with
  | nil => rfl
  | cons c s ih => rw [orderMarks, casedFirst_insertMark, casedFirst_cons_congr ih]

/-! ### Lower case, taken apart -/

/-- A text without a capital sigma is put in lower case character by character. -/
theorem lowerFrom_append (hs : 'Σ' ∉ s) (before t : List Char) :
    lowerFrom before (s ++ t) = s.flatMap lowerChar ++ lowerFrom (s.reverse ++ before) t := by
  induction s generalizing before with
  | nil => rfl
  | cons c s ih =>
    obtain ⟨hc, hs⟩ := not_or.mp (List.mem_cons.not.mp hs)
    rw [List.cons_append, lowerFrom, if_neg (Ne.symm hc), ih hs, List.flatMap_cons,
      List.append_assoc, List.reverse_cons, List.append_assoc, List.singleton_append]

theorem decomposition_sigma (final : Bool) :
    decomposition (if final then 'ς' else 'σ') = [if final then 'ς' else 'σ'] := by
  cases final <;> exact decomposition_of_plain (by decide) (by decide)

/-- The parts of the lower case are the lower case of the parts, wherever a text stands. -/
theorem flatMap_lowerFrom (h : casedFirst before = casedFirst before') (s : List Char) :
    (lowerFrom before s).flatMap decomposition = lowerFrom before' (s.flatMap decomposition) := by
  induction s generalizing before before' with
  | nil => rfl
  | cons c s ih =>
    rw [lowerFrom, List.flatMap_append, List.flatMap_cons]
    by_cases hc : c = 'Σ'
    · -- A sigma is its own only part, and sees the same letters in the parts of its neighbours.
      have hself : decomposition 'Σ' = ['Σ'] :=
        decomposition_of_plain (by decide) (by decide)
      rw [if_pos hc, hc, hself, List.singleton_append, lowerFrom, if_pos rfl,
        List.flatMap_singleton, decomposition_sigma, endsWord, endsWord, casedFirst_flatMap, h,
        ih (casedFirst_cons_congr h 'Σ')]
    · have hsigma : 'Σ' ∉ decomposition c := fun hmem => hc (eq_of_sigma_mem_decomposition hmem)
      have hseen : casedFirst (c :: before)
          = casedFirst ((decomposition c).reverse ++ before') := by
        rw [casedFirst_append, (sight_decomposition c).2, casedFirst_cons_eq, h]
      rw [if_neg hc, lowerChar_flatMap, lowerFrom_append hsigma, ih hseen]

/-! ### Lower case, in order -/

/-- What stands for a character in lower case is one character, of the same class. -/
theorem exists_lowerPiece_eq (hc : c ≠ '\u0130') (final : Bool) :
    ∃ l, lowerPiece final c = [l] ∧ combiningClass l = combiningClass c := by
  by_cases hsigma : c = 'Σ'
  · refine ⟨if final then 'ς' else 'σ', if_pos hsigma, ?_⟩
    rw [hsigma]
    cases final <;> decide
  · have hlower := lowerChar_eq hc
    exact ⟨_, by rw [lowerPiece_of_ne hsigma, hlower],
      class_of_mem_lowerChar hc (hlower ▸ List.mem_singleton_self _)⟩

theorem lowerPiece_of_class (hc : combiningClass c ≠ 0) (final : Bool) :
    lowerPiece final c = [c] := by
  have hsigma : c ≠ 'Σ' := by
    rintro rfl
    exact hc (by decide)
  rw [lowerPiece_of_ne hsigma, lowerChar_of_class hc]

theorem lowerFrom_cons_of_class (hc : combiningClass c ≠ 0) (before s : List Char) :
    lowerFrom before (c :: s) = c :: lowerFrom (c :: before) s := by
  rw [lowerFrom_cons, lowerPiece_of_class hc, List.singleton_append]

/-- A mark is put in its place before or after the marks are put in lower case. -/
theorem lowerFrom_insertMark (hc : combiningClass c ≠ 0) (hs : '\u0130' ∉ s) (before : List Char) :
    lowerFrom before (insertMark c s) = insertMark c (lowerFrom (c :: before) s) := by
  induction s generalizing before with
  | nil => exact lowerFrom_cons_of_class hc before []
  | cons d s ih =>
    obtain ⟨hd, hs⟩ := not_or.mp (List.mem_cons.not.mp hs)
    rw [insertMark]
    split
    · next hcross =>
      -- `c` passes over `d`: behind them, the two stand in the other order in what came before.
      have hclass : combiningClass d ≠ 0 := by omega
      rw [lowerFrom_cons_of_class hclass, lowerFrom_cons_of_class hclass, ih hs, insertMark,
        if_pos hcross, lowerFrom_congr (casedFirst_swap hc hclass before)]
    · next hstop =>
      obtain ⟨l, hl, hclass⟩ := exists_lowerPiece_eq (Ne.symm hd) (endsWord (c :: before) s)
      rw [lowerFrom_cons_of_class hc, lowerFrom_cons, hl, List.singleton_append, insertMark, hclass,
        if_neg hstop]

/-- **Marks may be sorted before or after the text is put in lower case.** -/
theorem orderMarks_lowerFrom (hs : '\u0130' ∉ s) (before : List Char) :
    orderMarks (lowerFrom before s) = lowerFrom before (orderMarks s) := by
  -- What stands before the text grows with each step, so the induction is for all of it at once.
  induction s generalizing before with
  | nil => rfl
  | cons c s ih =>
    obtain ⟨hc, hs⟩ := not_or.mp (List.mem_cons.not.mp hs)
    obtain ⟨l, hl, hclass⟩ := exists_lowerPiece_eq (Ne.symm hc) (endsWord before s)
    rw [lowerFrom_cons, hl, List.singleton_append, orderMarks, orderMarks, ih hs]
    by_cases hzero : combiningClass c = 0
    · rw [insertMark_of_starter hzero, insertMark_of_starter (hclass.trans hzero),
        lowerFrom_cons, endsWord, casedFirst_orderMarks, ← endsWord, hl, List.singleton_append]
    · rw [lowerPiece_of_class hzero] at hl
      obtain rfl := List.singleton_inj.mp hl
      exact (lowerFrom_insertMark hzero (fun hmem => hs (mem_orderMarks.mp hmem)) before).symm

/-- A text taken apart has no capital I with a dot, the one letter with a mark in its lower case. -/
theorem dottedI_not_mem_flatMap (s : List Char) : '\u0130' ∉ s.flatMap decomposition := by
  intro hmem
  obtain ⟨c, -, hmem⟩ := List.mem_flatMap.mp hmem
  exact dottedI_not_mem_decomposition hmem

/-- **The lower case of a spelling is a spelling of the lower case**: the decomposed form of a text
in lower case is the decomposed form of the text in lower case. -/
theorem decomposed_lower (s : List Char) : decomposed (lower s) = lower (decomposed s) := by
  rw [decomposed, lower, flatMap_lowerFrom rfl, orderMarks_lowerFrom (dottedI_not_mem_flatMap s),
    lower, decomposed]

/-! ### Empty texts -/

theorem lower_eq_nil_iff : lower s = [] ↔ s = [] := by
  constructor
  · intro h
    cases s with
    | nil => rfl
    | cons c s =>
      rw [lower, lowerFrom, List.append_eq_nil_iff] at h
      have hlower := h.1
      split at hlower
      · exact absurd hlower (List.cons_ne_nil _ _)
      · exact absurd hlower (lowerChar_ne_nil c)
  · rintro rfl
    rfl

theorem decomposed_eq_nil_iff : decomposed s = [] ↔ s = [] := by
  constructor
  · intro h
    cases s with
    | nil => rfl
    | cons c s =>
      obtain ⟨d, hd⟩ := List.exists_mem_of_ne_nil _ (decomposition_ne_nil c)
      have hmem : d ∈ decomposed (c :: s) := mem_decomposed.mpr ⟨c, List.mem_cons_self, hd⟩
      exact absurd hmem (by simp [h])
  · rintro rfl
    rfl

end NoteSieve.Unicode
