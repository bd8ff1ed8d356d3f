import NoteSieve.Proofs.Unicode.Canonical

/-!
# What is left of a composed text

Composing takes marks in, but not all of them: a letter has a composite only with some marks, and a
mark may be blocked by another one in front of it. This module says what a composed text looks like.

* **Nothing is left that could be taken in** (`composed_settled`): walked through again, with the
  last starter in hand (`takenAfter?`), no character of a composed text is taken in. A composite has
  its parts in order, so a starter that has taken in a mark of a greater class has no composite with
  those of smaller classes that it left behind.
* **When no mark is left** behind the first character (`takesMarks_iff`): exactly if, on the walk
  over the decomposed text, every mark is taken in as it comes.
-/

namespace NoteSieve.Unicode

variable {c d starter : Char} {s out rest waiting : List Char}

/-! ### Walking through a composed text -/

/-- What a starter becomes by taking in a character, with some text and the marks that wait between
the two: it is the last starter of the text that takes the character in. -/
def takenFrom? (starter : Char) (waiting : List Char) : List Char → Char → Option Char
  | [], c => absorb? starter waiting c
  | d :: front, c =>
    if combiningClass d = 0 then takenFrom? d [] front c
    else takenFrom? starter (d :: waiting) front c

/-- **What the last starter of a text becomes by taking in the next character**, if there is a
starter that does so. -/
def takenAfter? : List Char → Char → Option Char
  | [], _ => none
  | d :: front, c => if combiningClass d = 0 then takenFrom? d [] front c else takenAfter? front c

/-- A text behind a starter and marks, of which nothing is taken in. -/
def SettledFrom (starter : Char) (waiting out : List Char) : Prop :=
  ∀ front c rest, out = front ++ c :: rest → takenFrom? starter waiting front c = none

/-- **A text of which nothing can be taken in any more.** -/
def Settled (s : List Char) : Prop :=
  ∀ front c rest, s = front ++ c :: rest → takenAfter? front c = none

theorem settledFrom_nil : SettledFrom starter waiting [] :=
  fun front _ _ h => absurd h.symm (by simp)

theorem settledFrom_cons (hc : absorb? starter waiting c = none)
    (hout : if combiningClass c = 0 then SettledFrom c [] out
      else SettledFrom starter (c :: waiting) out) :
    SettledFrom starter waiting (c :: out) := by
  intro front d rest h
  cases front with
  | nil =>
    obtain ⟨rfl, -⟩ := List.cons.inj h
    exact hc
  | cons e front =>
    obtain ⟨rfl, hrest⟩ := List.cons.inj h
    rw [takenFrom?]
    split
    · next hclass =>
      rw [if_pos hclass] at hout
      exact hout front d rest hrest
    · next hclass =>
      rw [if_neg hclass] at hout
      exact hout front d rest hrest

theorem settled_cons
    (hs : if combiningClass c = 0 then SettledFrom c [] s else Settled s) : Settled (c :: s) := by
  intro front d rest h
  cases front with
  | nil => rfl
  | cons e front =>
    obtain ⟨rfl, hrest⟩ := List.cons.inj h
    rw [takenAfter?]
    split
    · next hclass =>
      rw [if_pos hclass] at hs
      exact hs front d rest hrest
    · next hclass =>
      rw [if_neg hclass] at hs
      exact hs front d rest hrest

/-! ### Composing leaves nothing to be taken in -/

/-- None of the marks that wait is taken in, each with those before it in the way. -/
def Refuses (starter : Char) : List Char → Prop
  | [] => True
  | c :: waiting => absorb? starter waiting c = none ∧ Refuses starter waiting

/-- **A starter that has taken in a character has no composite with a mark of a smaller class**:
such a composite would have its parts out of order. -/
theorem compose?_eq_none_of_class_lt {composite : Char} (hc : compose? starter c = some composite)
    (hd : 0 < combiningClass d ∧ combiningClass d < combiningClass c) :
    compose? composite d = none := by
  rw [Option.eq_none_iff_forall_ne_some]
  intro next hnext
  have hparts : decomposition next = decomposition starter ++ [c, d] := by
    rw [(compositeFacts hnext).parts, (compositeFacts hc).parts, List.append_assoc,
      List.singleton_append]
  have hordered := isOrdered_decomposition next
  rw [hparts] at hordered
  have hstep := (List.isChain_cons_cons.mp (List.isChain_append.mp hordered).2.1).1
  rcases hstep with hzero | hle <;> omega

theorem refuses_of_absorb? {composite : Char} (hc : compose? starter c = some composite)
    (hlt : ∀ d ∈ waiting, 0 < combiningClass d ∧ combiningClass d < combiningClass c) :
    Refuses composite waiting := by
  induction waiting with
  | nil => trivial
  | cons d waiting ih =>
    obtain ⟨hd, hwaiting⟩ := List.forall_mem_cons.mp hlt
    exact ⟨absorb?_eq_none (compose?_eq_none_of_class_lt hc hd) waiting, ih hwaiting⟩

/-- A composite is not taken in. -/
theorem compose?_eq_none_of_parts (h : decomposition c ≠ [c]) (starter : Char) :
    compose? starter c = none :=
  Option.eq_none_iff_forall_ne_some.mpr fun _ hc => h (compositeFacts hc).second

theorem decomposition_ne_of_compose? {composite : Char} (h : compose? starter c = some composite) :
    decomposition composite ≠ [composite] := by
  intro hself
  have hlength := congrArg List.length ((compositeFacts h).parts.symm.trans hself)
  have hstarter := List.length_pos_of_ne_nil (decomposition_ne_nil starter)
  rw [List.length_append, List.length_singleton, List.length_singleton] at hlength
  omega

/-- What is known of the text that a walk makes from a starter, the marks that wait behind it and
what is still to come. -/
structure WalkFacts (starter : Char) (waiting : List Char) (head : Char) (out : List Char) :
    Prop where
  /-- The starter stays as it is or becomes a composite. -/
  head_eq : head = starter ∨ decomposition head ≠ [head]
  /-- It stays a starter. -/
  head_class : combiningClass head = 0
  /-- It stays a mark or none. -/
  head_mark : isMark head = isMark starter
  /-- It takes in none of the marks that wait. -/
  refuses : Refuses head waiting
  /-- Nothing is left behind them that could be taken in. -/
  settled : SettledFrom head waiting out

/-- **A walk leaves nothing behind that could be taken in.** -/
theorem exists_walkFacts (starter : Char) (waiting : List Char)
    (hstarter : combiningClass starter = 0) (hmarks : ∀ d ∈ waiting, combiningClass d ≠ 0)
    (hordered : IsOrdered (waiting.reverse ++ rest))
    (hrefuses : Refuses starter waiting) :
    ∃ head out, composeFrom starter waiting rest = head :: (waiting.reverse ++ out) ∧
      WalkFacts starter waiting head out := by
  induction rest generalizing starter waiting with
  | nil =>
    refine ⟨starter, [], by rw [List.append_nil]; rfl, ?_⟩
    exact ⟨Or.inl rfl, hstarter, rfl, hrefuses, settledFrom_nil⟩
  | cons c rest ih =>
    cases habsorb : absorb? starter waiting c with
    | some composite =>
      have hcompose := absorb?_eq_some habsorb
      have hfacts := compositeFacts hcompose
      have hlt := class_lt_of_absorb? habsorb hmarks (List.isChain_append.mp hordered).1
      have hrest : IsOrdered (waiting.reverse ++ rest) :=
        hordered.erase (class_ne_zero_of_absorb? habsorb)
      obtain ⟨head, out, heq, hwalk⟩ :=
        ih composite waiting hfacts.class_eq hmarks hrest (refuses_of_absorb? hcompose hlt)
      refine ⟨head, out, (composeFrom_of_absorb? habsorb rest).trans heq, ?_, hwalk.head_class,
        hwalk.head_mark.trans hfacts.isMark_eq, hwalk.refuses, hwalk.settled⟩
      rcases hwalk.head_eq with rfl | hhead
      · exact Or.inr (decomposition_ne_of_compose? hcompose)
      · exact Or.inr hhead
    | none =>
      by_cases hclass : combiningClass c = 0
      · have hback := (List.isChain_append.mp hordered).2.1
        obtain ⟨head, out, heq, hwalk⟩ :=
          ih c [] hclass (by simp) (List.isChain_cons.mp hback).2 trivial
        refine ⟨starter, head :: out, ?_, Or.inl rfl, hstarter, rfl, hrefuses, ?_⟩
        · rw [composeFrom_of_starter habsorb hclass, heq, List.reverse_nil, List.nil_append]
        · -- The next starter was refused as it came, and a composite that it has become since is
          -- never taken in.
          refine settledFrom_cons ?_ (by rw [if_pos hwalk.head_class]; exact hwalk.settled)
          rcases hwalk.head_eq with rfl | hhead
          · exact habsorb
          · exact absorb?_eq_none (compose?_eq_none_of_parts hhead starter) waiting
      · obtain ⟨head, out, heq, hwalk⟩ :=
          ih starter (c :: waiting) hstarter (List.forall_mem_cons.mpr ⟨hclass, hmarks⟩)
            (by simpa using hordered) ⟨habsorb, hrefuses⟩
        refine ⟨head, c :: out, ?_, hwalk.head_eq, hwalk.head_class, hwalk.head_mark,
          hwalk.refuses.2, ?_⟩
        · rw [composeFrom_of_mark habsorb hclass, heq, List.reverse_cons, List.append_assoc,
            List.singleton_append]
        · exact settledFrom_cons hwalk.refuses.1 (by rw [if_neg hclass]; exact hwalk.settled)

/-- The walk from the first starter. -/
theorem exists_walkFacts_nil (hc : combiningClass c = 0) (hordered : IsOrdered (c :: rest)) :
    ∃ head out, composeFrom c [] rest = head :: out ∧ WalkFacts c [] head out :=
  exists_walkFacts c [] hc (by simp) (List.isChain_cons.mp hordered).2 trivial

theorem settled_compose (hordered : IsOrdered s) : Settled (compose s) := by
  induction s with
  | nil => exact fun front _ _ h => absurd h.symm (by simp [compose])
  | cons c s ih =>
    rw [compose]
    split
    · next hclass =>
      obtain ⟨head, out, heq, hwalk⟩ := exists_walkFacts_nil hclass hordered
      rw [heq]
      exact settled_cons (by rw [if_pos hwalk.head_class]; exact hwalk.settled)
    · next hclass =>
      exact settled_cons (by rw [if_neg hclass]; exact ih (List.isChain_cons.mp hordered).2)

/-- **Of a composed text nothing can be taken in any more.** -/
theorem composed_settled (s : List Char) : Settled (composed s) :=
  settled_compose (isOrdered_decomposed s)

/-! ### When no mark is left -/

/-- Whether on the walk from a starter every mark is taken in as it comes. -/
def takesMarksFrom (starter : Char) : List Char → Bool
  | [] => true
  | c :: rest =>
    match compose? starter c with
    | some composite => takesMarksFrom composite rest
    | none => !isMark c && takesMarksFrom c rest

/-- **Whether every mark of a decomposed text is taken in as it comes**, but for a mark at its
front. -/
def takesMarks : List Char → Bool
  | [] => true
  | c :: rest => takesMarksFrom c rest

/-- The first character may be a mark that is left as well. -/
theorem forall_mem_compose_iff (hordered : IsOrdered (c :: rest))
    (hiff : combiningClass c = 0 → (takesMarksFrom c rest = true ↔
      ∀ d ∈ (composeFrom c [] rest).tail, isMark d = false)) :
    (!isMark c && takesMarksFrom c rest) = true ↔ ∀ d ∈ compose (c :: rest), isMark d = false := by
  rw [Bool.and_eq_true, Bool.not_eq_true', compose]
  split
  · next hclass =>
    obtain ⟨head, out, heq, hwalk⟩ := exists_walkFacts_nil hclass hordered
    rw [hiff hclass, heq, ← hwalk.head_mark, List.tail_cons, List.forall_mem_cons]
  · next hclass => simp [isMark_of_class hclass]

theorem takesMarksFrom_iff (hstarter : combiningClass starter = 0)
    (hordered : IsOrdered (starter :: rest)) :
    takesMarksFrom starter rest = true ↔
      ∀ c ∈ (composeFrom starter [] rest).tail, isMark c = false := by
  induction rest generalizing starter with
  | nil => exact iff_of_true rfl (List.forall_mem_nil _)
  | cons c rest ih =>
    have hrest : IsOrdered (c :: rest) := (List.isChain_cons.mp hordered).2
    have habsorb : absorb? starter [] c = compose? starter c := rfl
    rw [takesMarksFrom]
    cases hcompose : compose? starter c with
    | some composite =>
      rw [composeFrom_of_absorb? (habsorb.trans hcompose)]
      have hclass := (compositeFacts hcompose).class_eq
      refine ih hclass (List.isChain_cons.mpr ⟨fun d hd => ?_, (List.isChain_cons.mp hrest).2⟩)
      exact Or.inr (by omega)
    | none =>
      have hcut := forall_mem_compose_iff hrest fun hclass => ih hclass hrest
      by_cases hclass : combiningClass c = 0
      · have hrestart : compose (c :: rest) = composeFrom c [] rest := if_pos hclass
        rwa [composeFrom_of_starter (habsorb.trans hcompose) hclass, List.tail_cons,
          List.reverse_nil, List.nil_append, ← hrestart]
      · -- A mark with a class waits, and is left.
        obtain ⟨head, out, heq⟩ := exists_composeFrom_eq starter [c] rest
        rw [composeFrom_of_mark (habsorb.trans hcompose) hclass, heq]
        simp [isMark_of_class hclass]

theorem takesMarks_iff_of_isOrdered (hordered : IsOrdered s) :
    takesMarks s = true ↔ ∀ c ∈ (compose s).tail, isMark c = false := by
  cases s with
  | nil => exact iff_of_true rfl (List.forall_mem_nil _)
  | cons c s =>
    rw [takesMarks, compose]
    split
    · next hclass => exact takesMarksFrom_iff hclass hordered
    · next hclass =>
      -- A mark at the front takes nothing in, so the walk begins behind it.
      cases s with
      | nil => exact iff_of_true rfl (List.forall_mem_nil _)
      | cons d s =>
        have hrest : IsOrdered (d :: s) := (List.isChain_cons.mp hordered).2
        have hnone : compose? c d = none :=
          Option.eq_none_iff_forall_ne_some.mpr fun _ h => hclass (compositeFacts h).first_class
        rw [takesMarksFrom, hnone, List.tail_cons]
        exact forall_mem_compose_iff hrest fun hd => takesMarksFrom_iff hd hrest

/-- **No mark is left behind the first character of a composed text exactly if every mark of the
decomposed text is taken in as it comes.** -/
theorem takesMarks_iff (s : List Char) :
    takesMarks (decomposed s) = true ↔ ∀ c ∈ (composed s).tail, isMark c = false :=
  takesMarks_iff_of_isOrdered (isOrdered_decomposed s)

end NoteSieve.Unicode
