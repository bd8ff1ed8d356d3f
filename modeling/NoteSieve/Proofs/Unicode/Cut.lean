import NoteSieve.Proofs.Unicode.Inert

/-!
# Cutting a text at an inert character

Each step of a fold looks at the neighbours of a character: the rule for a final sigma looks for a
letter on either side, marks are sorted along the text, and a starter takes in what follows it. An
inert character (`NoteSieve.Unicode.IsInert`) ends all of these searches, so **each step may be
taken on both sides of it separately**:

| step | theorem |
|---|---|
| lower case | `NoteSieve.Unicode.lower_append_cons` |
| taking apart and sorting | `NoteSieve.Unicode.decomposed_append_cons` |
| composing | `NoteSieve.Unicode.composed_append_cons` |

And a step neither makes an inert character nor loses one, so that a text has it exactly when its
fold has (`NoteSieve.Unicode.IsInert.mem_lowerFrom`, `NoteSieve.Unicode.IsInert.mem_decomposed`,
`NoteSieve.Unicode.IsInert.mem_composed`).
-/

namespace NoteSieve.Unicode

variable {q : Char}

/-! ### Lower case -/

/-- What stands for a character in lower case. It depends on where the character stands only for a
capital sigma, which has two forms. -/
def lowerPiece (final : Bool) (c : Char) : List Char :=
  if c = 'Σ' then [if final then 'ς' else 'σ'] else lowerChar c

/-- Lower case is made piece by piece. -/
theorem lowerFrom_cons (before : List Char) (c : Char) (s : List Char) :
    lowerFrom before (c :: s) = lowerPiece (endsWord before s) c ++ lowerFrom (c :: before) s := rfl

theorem lowerPiece_of_ne {c : Char} (hc : c ≠ 'Σ') (final : Bool) :
    lowerPiece final c = lowerChar c := if_neg hc

theorem casedFirst_cons {c : Char} (h : isCaseIgnorable c = false) (s : List Char) :
    casedFirst (c :: s) = isCased c := by
  rw [casedFirst, List.dropWhile_cons_of_neg (by simp [h])]

theorem casedFirst_cons_of_ignorable {c : Char} (h : isCaseIgnorable c = true) (s : List Char) :
    casedFirst (c :: s) = casedFirst s := by
  rw [casedFirst, List.dropWhile_cons_of_pos h]
  rfl

/-- The search for a letter next to a sigma ends at an inert character as at the end of the text. -/
theorem IsInert.casedFirst_append_cons (hq : IsInert q) (s t : List Char) :
    casedFirst (s ++ q :: t) = casedFirst s := by
  induction s with
  | nil => exact (casedFirst_cons hq.not_ignorable t).trans hq.not_cased
  | cons c s ih =>
    rw [List.cons_append]
    cases hc : isCaseIgnorable c with
    | true => rw [casedFirst_cons_of_ignorable hc, casedFirst_cons_of_ignorable hc, ih]
    | false => rw [casedFirst_cons hc, casedFirst_cons hc]

theorem IsInert.endsWord_before (hq : IsInert q) (s t after : List Char) :
    endsWord (s ++ q :: t) after = endsWord s after := by
  rw [endsWord, endsWord, hq.casedFirst_append_cons]

theorem IsInert.endsWord_after (hq : IsInert q) (before s t : List Char) :
    endsWord before (s ++ q :: t) = endsWord before s := by
  rw [endsWord, endsWord, hq.casedFirst_append_cons]

theorem IsInert.ne_sigma (hq : IsInert q) : q ≠ 'Σ' ∧ q ≠ 'σ' ∧ q ≠ 'ς' := by
  obtain ⟨-, -, -, hcapital, hsmall, hfinal⟩ := tables_free
  refine ⟨?_, ?_, ?_⟩ <;> rintro rfl
  · exact Bool.noConfusion (hcapital.symm.trans hq.not_cased)
  · exact Bool.noConfusion (hsmall.symm.trans hq.not_cased)
  · exact Bool.noConfusion (hfinal.symm.trans hq.not_cased)

theorem IsInert.lowerFrom_cons (hq : IsInert q) (before t : List Char) :
    lowerFrom before (q :: t) = q :: lowerFrom (q :: before) t := by
  rw [lowerFrom, if_neg hq.ne_sigma.1, hq.lowerChar_self, List.singleton_append]

/-- What stands before an inert character does not matter behind it. -/
theorem IsInert.lowerFrom_before (hq : IsInert q) (t : List Char) :
    ∀ s before : List Char, lowerFrom (s ++ q :: before) t = lowerFrom s t := by
  induction t with
  | nil => exact fun _ _ => rfl
  | cons c t ih =>
    intro s before
    rw [lowerFrom, lowerFrom, hq.endsWord_before, ← List.cons_append, ih]

theorem IsInert.lowerFrom_append_cons (hq : IsInert q) (t : List Char) :
    ∀ s before : List Char,
      lowerFrom before (s ++ q :: t) = lowerFrom before s ++ q :: lower t := by
  intro s
  induction s with
  | nil =>
    intro before
    rw [List.nil_append, hq.lowerFrom_cons, ← List.nil_append (q :: before), hq.lowerFrom_before]
    rfl
  | cons c s ih =>
    intro before
    rw [List.cons_append, lowerFrom, lowerFrom, hq.endsWord_after, ih, List.append_assoc]

/-- **Lower case may be taken on both sides of an inert character separately.** -/
theorem lower_append_cons (hq : IsInert q) (s t : List Char) :
    lower (s ++ q :: t) = lower s ++ q :: lower t :=
  hq.lowerFrom_append_cons t s []

theorem IsInert.mem_lowerFrom (hq : IsInert q) (s before : List Char) :
    q ∈ lowerFrom before s → q ∈ s :=
  (mem_lowerFrom_iff hq.lowerChar_self hq.eq_of_mem_lowerChar hq.ne_sigma.2.2).mp

/-! ### Decomposed text -/

theorem insertMark_cons (hq : combiningClass q = 0) (c : Char) (t : List Char) :
    insertMark c (q :: t) = c :: q :: t := by
  rw [insertMark, if_neg (by omega)]

theorem insertMark_of_starter (hq : combiningClass q = 0) (s : List Char) :
    insertMark q s = q :: s := by
  cases s with
  | nil => rfl
  | cons d s => rw [insertMark, if_neg (by omega)]

theorem insertMark_append_cons (hq : combiningClass q = 0) (c : Char) (s t : List Char) :
    insertMark c (s ++ q :: t) = insertMark c s ++ q :: t := by
  induction s with
  | nil => exact insertMark_cons hq c t
  | cons d s ih =>
    rw [List.cons_append, insertMark, insertMark]
    split
    · rw [ih, List.cons_append]
    · rfl

/-- **Marks are sorted on both sides of a starter separately.** -/
theorem orderMarks_append_cons (hq : combiningClass q = 0) (s t : List Char) :
    orderMarks (s ++ q :: t) = orderMarks s ++ q :: orderMarks t := by
  induction s with
  | nil => exact insertMark_of_starter hq (orderMarks t)
  | cons c s ih => rw [List.cons_append, orderMarks, orderMarks, ih, insertMark_append_cons hq]

theorem decomposed_append_cons (hq : IsInert q) (s t : List Char) :
    decomposed (s ++ q :: t) = decomposed s ++ q :: decomposed t := by
  rw [decomposed, List.flatMap_append, List.flatMap_cons, hq.decomposition_self,
    List.singleton_append, orderMarks_append_cons hq.combiningClass_eq]
  rfl

theorem mem_insertMark {c d : Char} {s : List Char} : d ∈ insertMark c s ↔ d = c ∨ d ∈ s := by
  induction s with
  | nil => simp [insertMark]
  | cons e s ih =>
    rw [insertMark]
    split
    · rw [List.mem_cons, ih, List.mem_cons]
      exact or_left_comm
    · rw [List.mem_cons]

theorem mem_orderMarks {d : Char} {s : List Char} : d ∈ orderMarks s ↔ d ∈ s := by
  induction s with
  | nil => rfl
  | cons c s ih => rw [orderMarks, mem_insertMark, ih, List.mem_cons]

/-- Sorting the marks loses none of the characters that the text is taken apart into. -/
theorem mem_decomposed {d : Char} {s : List Char} :
    d ∈ decomposed s ↔ ∃ c ∈ s, d ∈ decomposition c := by
  rw [decomposed, mem_orderMarks, List.mem_flatMap]

theorem IsInert.mem_decomposed (hq : IsInert q) {s : List Char} (h : q ∈ decomposed s) : q ∈ s := by
  obtain ⟨c, hc, hmem⟩ := Unicode.mem_decomposed.mp h
  exact hq.eq_of_mem_decomposition c hmem ▸ hc

/-! ### Composed text -/

/-- Whether the last waiting mark keeps the next character from the starter. -/
def isBlocked (c : Char) : List Char → Bool
  | [] => false
  | w :: _ => decide (combiningClass c ≤ combiningClass w)

/-- What a starter becomes by taking in the next character, if it does. -/
def absorb? (starter : Char) (waiting : List Char) (c : Char) : Option Char :=
  if isBlocked c waiting then none else compose? starter c

theorem composeFrom_cons (starter : Char) (waiting : List Char) (c : Char) (rest : List Char) :
    composeFrom starter waiting (c :: rest) =
      match absorb? starter waiting c with
      | some composite => composeFrom composite waiting rest
      | none =>
        if combiningClass c = 0 then starter :: (waiting.reverse ++ composeFrom c [] rest)
        else composeFrom starter (c :: waiting) rest := rfl

theorem absorb?_eq_some {starter c composite : Char} {waiting : List Char}
    (h : absorb? starter waiting c = some composite) : compose? starter c = some composite := by
  rw [absorb?] at h
  split at h
  · exact absurd h (by simp)
  · exact h

theorem absorb?_eq_none {starter c : Char} (h : compose? starter c = none)
    (waiting : List Char) : absorb? starter waiting c = none := by
  cases ha : absorb? starter waiting c with
  | none => rfl
  | some composite => exact absurd (absorb?_eq_some ha) (by simp [h])

theorem IsInert.composeFrom_append_cons (hq : IsInert q) (s t : List Char) :
    ∀ starter waiting, composeFrom starter waiting (s ++ q :: t)
      = composeFrom starter waiting s ++ composeFrom q [] t := by
  induction s with
  | nil =>
    intro starter waiting
    rw [List.nil_append, composeFrom_cons, absorb?_eq_none (hq.compose?_right starter)]
    simp only [if_pos hq.combiningClass_eq]
    rfl
  | cons c s ih =>
    intro starter waiting
    rw [List.cons_append, composeFrom_cons, composeFrom_cons]
    cases absorb? starter waiting c with
    | some composite => exact ih composite waiting
    | none =>
      by_cases hc : combiningClass c = 0
      · simp only [if_pos hc, ih, List.cons_append, List.append_assoc]
      · simp only [if_neg hc, ih]

/-- An inert character takes nothing in, so what follows it is composed as if it stood alone. -/
theorem IsInert.composeFrom_self (hq : IsInert q) (s : List Char) :
    ∀ waiting, composeFrom q waiting s = q :: (waiting.reverse ++ compose s) := by
  induction s with
  | nil =>
    intro waiting
    rw [compose, List.append_nil]
    rfl
  | cons c s ih =>
    intro waiting
    rw [composeFrom_cons, absorb?_eq_none (hq.compose?_left c), compose]
    by_cases hc : combiningClass c = 0
    · simp only [if_pos hc]
    · simp only [if_neg hc, ih, List.reverse_cons, List.append_assoc, List.singleton_append]

theorem IsInert.compose_append_cons (hq : IsInert q) (s t : List Char) :
    compose (s ++ q :: t) = compose s ++ q :: compose t := by
  induction s with
  | nil =>
    change compose (q :: t) = q :: compose t
    rw [compose, if_pos hq.combiningClass_eq, hq.composeFrom_self]
    rfl
  | cons c s ih =>
    rw [List.cons_append, compose, compose]
    split
    · rw [hq.composeFrom_append_cons, hq.composeFrom_self]
      rfl
    · rw [ih, List.cons_append]

/-- **Composing may be done on both sides of an inert character separately.** -/
theorem composed_append_cons (hq : IsInert q) (s t : List Char) :
    composed (s ++ q :: t) = composed s ++ q :: composed t := by
  rw [composed, decomposed_append_cons hq, hq.compose_append_cons]
  rfl

/-- What holds of the starter, of the marks that wait and of all that is to come holds of all that a
walk makes, if a composite has it from its pair. -/
theorem forall_mem_composeFrom {p : Char → Prop}
    (hp : ∀ a b c, compose? a b = some c → p a → p b → p c) {starter : Char}
    {waiting s : List Char} (hstarter : p starter) (hwaiting : ∀ d ∈ waiting, p d)
    (hs : ∀ d ∈ s, p d) : ∀ d ∈ composeFrom starter waiting s, p d := by
  induction s generalizing starter waiting with
  | nil =>
    exact List.forall_mem_cons.mpr
      ⟨hstarter, fun d hd => hwaiting d (List.mem_reverse.mp hd)⟩
  | cons c s ih =>
    obtain ⟨hc, hs⟩ := List.forall_mem_cons.mp hs
    rw [composeFrom_cons]
    cases ha : absorb? starter waiting c with
    | some composite =>
      exact ih (hp starter c composite (absorb?_eq_some ha) hstarter hc) hwaiting hs
    | none =>
      by_cases hclass : combiningClass c = 0
      · simp only [if_pos hclass]
        refine List.forall_mem_cons.mpr ⟨hstarter, List.forall_mem_append.mpr ⟨?_, ?_⟩⟩
        · exact fun d hd => hwaiting d (List.mem_reverse.mp hd)
        · exact ih hc (List.forall_mem_nil _) hs
      · simp only [if_neg hclass]
        exact ih hstarter (List.forall_mem_cons.mpr ⟨hc, hwaiting⟩) hs

/-- **What two characters pass on to their composite, a text passes on to its composed form.** -/
theorem forall_mem_compose {p : Char → Prop}
    (hp : ∀ a b c, compose? a b = some c → p a → p b → p c) {s : List Char}
    (hs : ∀ d ∈ s, p d) : ∀ d ∈ compose s, p d := by
  induction s with
  | nil => exact hs
  | cons c s ih =>
    obtain ⟨hc, hs⟩ := List.forall_mem_cons.mp hs
    rw [compose]
    split
    · exact forall_mem_composeFrom hp hc (List.forall_mem_nil _) hs
    · exact List.forall_mem_cons.mpr ⟨hc, ih hs⟩

theorem IsInert.mem_compose (hq : IsInert q) {s : List Char} (h : q ∈ compose s) : q ∈ s := by
  by_contra hs
  have hother : ∀ d ∈ compose s, d ≠ q := by
    refine forall_mem_compose (fun a b c hc _ _ => ?_) fun d hd heq => hs (heq ▸ hd)
    rintro rfl
    exact hq.compose?_ne a b hc
  exact hother q h rfl

theorem IsInert.mem_composed (hq : IsInert q) {s : List Char} (h : q ∈ composed s) : q ∈ s :=
  hq.mem_decomposed (hq.mem_compose h)

end NoteSieve.Unicode
