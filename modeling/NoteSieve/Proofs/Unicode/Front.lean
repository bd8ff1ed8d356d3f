import NoteSieve.Proofs.Unicode.Canonical

/-!
# The front of a composed text

A composed text may be cut anywhere, and what stands before the cut is composed
(`NoteSieve.Unicode.composed_front`). The same cannot be said of the decomposed text that it was
made from: a cut through the marks behind a letter leaves out some of them, and a mark that is left
out may stand, there, before one that the letter has taken in.

So the decomposed text is not cut but thinned out (`NoteSieve.Unicode.Thins`): the marks behind the
cut go, those that the letter takes in stay. With fewer marks in the way it takes them in as before
(`NoteSieve.Unicode.composeFrom_takenIn`).
-/

namespace NoteSieve.Unicode

variable {c d starter : Char} {s t rest waiting : List Char}

/-! ### Thinning out -/

/-- A text with some marks left out, and all from some character on. -/
structure Thins (t s : List Char) : Prop where
  /-- No character is new. -/
  mem : ∀ c ∈ t, c ∈ s
  /-- No mark comes before one of a smaller class. -/
  ordered : ∀ before, IsOrdered (before ++ s) → IsOrdered (before ++ t)

theorem Thins.nil (s : List Char) : Thins [] s where
  mem := List.forall_mem_nil _
  ordered before h := by
    rw [List.append_nil]
    exact (List.isChain_append.mp h).1

theorem Thins.cons (h : Thins t s) (c : Char) : Thins (c :: t) (c :: s) where
  mem := List.forall_mem_cons.mpr
    ⟨List.mem_cons_self, fun d hd => List.mem_cons_of_mem c (h.mem d hd)⟩
  ordered before hs := by
    have ht := h.ordered (before ++ [c])
    simp only [List.append_assoc, List.singleton_append] at ht
    exact ht hs

theorem Thins.skip (h : Thins t s) (hc : combiningClass c ≠ 0) : Thins t (c :: s) where
  mem d hd := List.mem_cons_of_mem c (h.mem d hd)
  ordered before hs := h.ordered before (hs.erase (Or.inl hc))

/-- What a starter takes in on a walk. -/
def takenIn (starter : Char) (waiting : List Char) : List Char → List Char
  | [] => []
  | c :: rest =>
    match absorb? starter waiting c with
    | some composite => c :: takenIn composite waiting rest
    | none => if combiningClass c = 0 then [] else takenIn starter (c :: waiting) rest

theorem thins_takenIn (starter : Char) (waiting rest : List Char) :
    Thins (takenIn starter waiting rest) rest := by
  induction rest generalizing starter waiting with
  | nil => exact Thins.nil []
  | cons c rest ih =>
    rw [takenIn]
    split
    · next composite _ => exact (ih composite waiting).cons c
    · split
      · exact Thins.nil _
      · next hclass => exact (ih starter (c :: waiting)).skip hclass

/-- A starter takes in the same characters with fewer marks in the way. -/
theorem composeFrom_takenIn {head : Char} (starter : Char) (more : List Char)
    (hmarks : ∀ d ∈ more ++ waiting, combiningClass d ≠ 0)
    (hordered : IsOrdered ((more ++ waiting).reverse ++ rest))
    (hhead : (composeFrom starter (more ++ waiting) rest).head? = some head) :
    composeFrom starter waiting (takenIn starter (more ++ waiting) rest)
      = head :: waiting.reverse := by
  induction rest generalizing starter more with
  | nil =>
    obtain rfl : starter = head := Option.some.inj hhead
    rfl
  | cons c rest ih =>
    rw [takenIn]
    cases habsorb : absorb? starter (more ++ waiting) c with
    | some composite =>
      have hlt := class_lt_of_absorb? habsorb hmarks (List.isChain_append.mp hordered).1
      have hrest := hordered.erase (class_ne_zero_of_absorb? habsorb)
      -- `c` is of a greater class than all marks in the way, so it is not blocked by fewer of them.
      have hfewer : absorb? starter waiting c = some composite := by
        rw [absorb?, absorb?_eq_some habsorb, if_neg]
        cases waiting with
        | nil => exact Bool.false_ne_true
        | cons w waiting =>
          have hw := hlt w (List.mem_append_right _ List.mem_cons_self)
          simpa [isBlocked] using hw.2
      rw [composeFrom_of_absorb? habsorb] at hhead
      dsimp only
      rw [composeFrom_of_absorb? hfewer]
      exact ih composite more hmarks hrest hhead
    | none =>
      by_cases hclass : combiningClass c = 0
      · rw [composeFrom_of_starter habsorb hclass] at hhead
        obtain rfl : starter = head := Option.some.inj hhead
        simp only [if_pos hclass]
        rfl
      · rw [composeFrom_of_mark habsorb hclass] at hhead
        simp only [if_neg hclass]
        exact ih starter (c :: more) (List.forall_mem_cons.mpr ⟨hclass, hmarks⟩)
          (by simpa using hordered) hhead

/-! ### What a cut leaves -/

/-- The mark that waits last comes out behind the others. -/
theorem eq_of_composeFrom_eq {head : Char} {back : List Char}
    (h : composeFrom starter (c :: waiting) rest = head :: (waiting.reverse ++ d :: back)) :
    d = c := by
  obtain ⟨head', out, hshape⟩ := exists_composeFrom_eq starter (c :: waiting) rest
  rw [hshape] at h
  have htail := (List.cons.inj h).2
  simp only [List.reverse_cons, List.append_assoc, List.cons_append] at htail
  exact (List.cons.inj (List.append_cancel_left htail)).1.symm

/-- **The front of what a walk makes is made by a walk**, over a text with fewer marks. -/
theorem exists_thins_composeFrom {head : Char} {back : List Char} (starter : Char)
    (waiting front : List Char) (hmarks : ∀ d ∈ waiting, combiningClass d ≠ 0)
    (hordered : IsOrdered (waiting.reverse ++ rest))
    (h : composeFrom starter waiting rest = head :: (waiting.reverse ++ (front ++ back))) :
    ∃ t, Thins t rest ∧ composeFrom starter waiting t = head :: (waiting.reverse ++ front) := by
  induction rest generalizing starter waiting head front with
  | nil =>
    obtain ⟨rfl, hrest⟩ := List.cons.inj h
    obtain ⟨rfl, -⟩ := List.append_eq_nil_iff.mp (List.self_eq_append_right.mp hrest)
    exact ⟨[], Thins.nil [], by rw [List.append_nil]; rfl⟩
  | cons c rest ih =>
    cases habsorb : absorb? starter waiting c with
    | some composite =>
      rw [composeFrom_of_absorb? habsorb] at h
      have hrest := hordered.erase (class_ne_zero_of_absorb? habsorb)
      obtain ⟨t, hthins, ht⟩ := ih composite waiting front hmarks hrest h
      exact ⟨c :: t, hthins.cons c, (composeFrom_of_absorb? habsorb t).trans ht⟩
    | none =>
      by_cases hclass : combiningClass c = 0
      · rw [composeFrom_of_starter habsorb hclass] at h
        obtain ⟨rfl, hrest⟩ := List.cons.inj h
        have hmade := List.append_cancel_left hrest
        cases front with
        | nil => exact ⟨[], Thins.nil _, by rw [List.append_nil]; rfl⟩
        | cons d front =>
          have hback := (List.isChain_append.mp hordered).2.1
          obtain ⟨t, hthins, ht⟩ :=
            ih c [] front (by simp) (List.isChain_cons.mp hback).2 hmade
          refine ⟨c :: t, hthins.cons c, ?_⟩
          rw [composeFrom_of_starter habsorb hclass, ht, List.reverse_nil, List.nil_append]
      · rw [composeFrom_of_mark habsorb hclass] at h
        have hmarks' : ∀ d ∈ c :: waiting, combiningClass d ≠ 0 :=
          List.forall_mem_cons.mpr ⟨hclass, hmarks⟩
        have hordered' : IsOrdered ((c :: waiting).reverse ++ rest) := by simpa using hordered
        cases front with
        | nil =>
          -- The mark is cut off, but what the starter takes in behind it is not.
          refine ⟨_, (thins_takenIn starter (c :: waiting) rest).skip hclass, ?_⟩
          rw [List.append_nil]
          exact composeFrom_takenIn starter [c] hmarks' hordered'
            (by rw [List.singleton_append, h]; rfl)
        | cons d front =>
          obtain rfl : d = c := eq_of_composeFrom_eq h
          obtain ⟨t, hthins, ht⟩ :=
            ih starter (d :: waiting) front hmarks' hordered' (by simpa using h)
          refine ⟨d :: t, hthins.cons d, ?_⟩
          rw [composeFrom_of_mark habsorb hclass, ht, List.reverse_cons, List.append_assoc,
            List.singleton_append]

theorem exists_thins_compose {front back : List Char} (hordered : IsOrdered s)
    (h : compose s = front ++ back) : ∃ t, Thins t s ∧ compose t = front := by
  induction s generalizing front with
  | nil =>
    obtain ⟨rfl, -⟩ := List.append_eq_nil_iff.mp h.symm
    exact ⟨[], Thins.nil [], rfl⟩
  | cons c s ih =>
    have hrest := (List.isChain_cons.mp hordered).2
    cases front with
    | nil => exact ⟨[], Thins.nil _, rfl⟩
    | cons d front =>
      rw [compose] at h
      split at h
      · next hclass =>
        obtain ⟨t, hthins, ht⟩ := exists_thins_composeFrom c [] front (by simp) hrest h
        exact ⟨c :: t, hthins.cons c, by rw [compose, if_pos hclass]; exact ht⟩
      · next hclass =>
        obtain ⟨rfl, hback⟩ := List.cons.inj h
        obtain ⟨t, hthins, ht⟩ := ih hrest hback
        exact ⟨c :: t, hthins.cons c, by rw [compose, if_neg hclass, ht]⟩

/-- **The front of a composed text is composed.** -/
theorem composed_front {front back : List Char} (h : composed s = front ++ back) :
    composed front = front := by
  obtain ⟨t, hthins, rfl⟩ := exists_thins_compose (isOrdered_decomposed s) h
  have hapart : IsApart t := fun c hc => isApart_decomposed s c (hthins.mem c hc)
  have hordered : IsOrdered t := hthins.ordered [] (isOrdered_decomposed s)
  rw [composed, decomposed, orderMarks_compose hapart hordered]

end NoteSieve.Unicode
