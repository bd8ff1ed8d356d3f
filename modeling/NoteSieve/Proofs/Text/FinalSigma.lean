import NoteSieve.Proofs.Text.Sigma

/-!
# Sigmas that end a word

There are two ways to put a text in lower case: as a whole, where a capital sigma at the end of a
word takes its final form, and each character on its own, where it does not. Two texts with the same
lower case as wholes need not have the same lower case character by character: one may have a
capital sigma where the other has a small final one.

Where this can happen is a matter of the lower case alone. A search for the letter next to a sigma
sees in the lower case what it sees in the text (`NoteSieve.Unicode.endsWord_lower`), and a final
sigma in the lower case comes from a capital or a final one
(`NoteSieve.Unicode.exists_cut_lowerFrom`). So a text has a sigma that ends a word exactly if its
lower case has one (`NoteSieve.Text.hasFinalSigma_iff_lower`), and **a text has the same lower case,
character by character, as all texts with its lower case exactly if no sigma in it ends a word**
(`NoteSieve.Text.lowerEach_determined_iff`).
-/

namespace NoteSieve

namespace Unicode

variable {s u v before : List Char} {c : Char}

/-! ### What a sigma sees of a lower case -/

theorem lowerBetween_cons (before after : List Char) (c : Char) (s : List Char) :
    lowerBetween before after (c :: s)
      = lowerPiece (endsWord before (s ++ after)) c ++ lowerBetween (c :: before) after s := rfl

/-- The lower case of a character looks like the character from either side. -/
theorem sight_lowerPiece (final : Bool) (c : Char) :
    sight (lowerPiece final c) = sight [c] ∧ sight (lowerPiece final c).reverse = sight [c] := by
  by_cases hsigma : c = 'Σ'
  · subst hsigma
    cases final <;> decide
  rw [lowerPiece_of_ne hsigma]
  by_cases hdot : c = '\u0130'
  · subst hdot
    decide
  · rw [lowerChar_eq hdot, List.reverse_singleton, ← lowerChar_eq hdot]
    exact ⟨sight_lowerChar c, sight_lowerChar c⟩

theorem sight_lowerBetween (before after s : List Char) :
    sight (lowerBetween before after s) = sight s ∧
      sight (lowerBetween before after s).reverse = sight s.reverse := by
  induction s generalizing before with
  | nil => exact ⟨rfl, rfl⟩
  | cons c s ih =>
    obtain ⟨hfront, hback⟩ := sight_lowerPiece (endsWord before (s ++ after)) c
    obtain ⟨ihfront, ihback⟩ := ih (c :: before)
    rw [lowerBetween_cons, List.reverse_append, List.reverse_cons, sight_append, sight_append,
      sight_append, hfront, hback, ihfront, ihback]
    exact ⟨(sight_append [c] s).symm, rfl⟩

/-- **A sigma sees the same letters in lower case**, on either side of it. -/
theorem endsWord_lower (before after u v : List Char) :
    endsWord (lowerBetween [] after u).reverse (lowerFrom before v) = endsWord u.reverse v := by
  rw [lowerFrom_eq_lowerBetween, endsWord, endsWord, casedFirst_eq, casedFirst_eq, casedFirst_eq,
    casedFirst_eq, (sight_lowerBetween [] after u).2, (sight_lowerBetween before [] v).1]

/-! ### Where a final sigma comes from -/

theorem lowerRuns_apart_finalSigma : (lowerRuns.all fun (first, last, _, target) =>
    Nat.blt 'ς'.toNat target || Nat.blt (target + (last - first)) 'ς'.toNat) = true := by
  decide

theorem lowerChar_finalSigma : lowerChar 'ς' = ['ς'] := by decide

/-- A small final sigma is the lower case of no other character by itself. -/
theorem eq_of_finalSigma_mem_lowerChar (h : 'ς' ∈ lowerChar c) : c = 'ς' := by
  refine eq_of_mem_lowerChar_of_apart (by decide) (fun first last step target hrun => ?_) h
  have hapart := List.all_eq_true.mp lowerRuns_apart_finalSigma _ hrun
  simpa only [Bool.or_eq_true, Nat.blt_eq] using hapart

theorem eq_of_finalSigma_mem_lowerPiece {final : Bool} (h : 'ς' ∈ lowerPiece final c) :
    (c = 'Σ' ∨ c = 'ς') ∧ lowerPiece final c = ['ς'] := by
  rw [lowerPiece] at h ⊢
  split
  · next hsigma =>
    rw [if_pos hsigma] at h
    exact ⟨Or.inl hsigma, congrArg (fun d => [d]) (List.mem_singleton.mp h).symm⟩
  · next hsigma =>
    rw [if_neg hsigma] at h
    obtain rfl := eq_of_finalSigma_mem_lowerChar h
    exact ⟨Or.inr rfl, lowerChar_finalSigma⟩

/-- **A final sigma in the lower case cuts the text** at a capital sigma or a final one, and the
lower case on either side of it is that of the piece there. -/
theorem exists_cut_lowerFrom (h : lowerFrom before s = u ++ 'ς' :: v) :
    ∃ a c b, s = a ++ c :: b ∧ (c = 'Σ' ∨ c = 'ς') ∧ lowerBetween before (c :: b) a = u ∧
      lowerFrom (c :: (a.reverse ++ before)) b = v := by
  induction s generalizing before u with
  | nil => exact absurd h (by simp [lowerFrom])
  | cons d s ih =>
    rw [lowerFrom_cons] at h
    rcases List.append_eq_append_iff.mp h with ⟨x, rfl, hx⟩ | ⟨x, hpiece, hx⟩
    · -- The final sigma is behind the first character.
      obtain ⟨a, c, b, rfl, hc, rfl, rfl⟩ := ih hx
      refine ⟨d :: a, c, b, rfl, hc, ?_, ?_⟩
      · rw [lowerBetween_cons]
      · rw [List.reverse_cons, List.append_assoc, List.singleton_append]
    · cases x with
      | nil =>
        rw [List.append_nil] at hpiece
        obtain ⟨a, c, b, rfl, hc, ha, rfl⟩ := ih (u := []) hx.symm
        refine ⟨d :: a, c, b, rfl, hc, ?_, ?_⟩
        · rw [lowerBetween_cons, ha, List.append_nil, ← hpiece]
        · rw [List.reverse_cons, List.append_assoc, List.singleton_append]
      | cons e x =>
        -- It is the lower case of the first character.
        obtain ⟨rfl, rfl⟩ := List.cons.inj hx
        have hmem : 'ς' ∈ lowerPiece (endsWord before s) d := by simp [hpiece]
        obtain ⟨hd, hwhole⟩ := eq_of_finalSigma_mem_lowerPiece hmem
        rw [hwhole] at hpiece
        obtain ⟨rfl, rfl⟩ : u = [] ∧ x = [] := by
          cases u with
          | nil => exact ⟨rfl, (List.cons.inj hpiece).2.symm⟩
          | cons _ _ => simp at hpiece
        exact ⟨[], d, s, rfl, hd, rfl, rfl⟩

end Unicode

namespace Text

open Unicode

variable {s t u v : Text}

/-! ### Sigmas that end a word -/

/-- **A sigma that ends a word**: a capital one, which takes its final form in lower case, or a
small one that has this form already. -/
def HasFinalSigma (s : Text) : Prop :=
  ∃ u c v, s = u ++ c :: v ∧ (c = 'Σ' ∨ c = 'ς') ∧ endsWord u.reverse v = true

theorem lower_append_sigma (u v : Text) {c : Char} (hc : c = 'Σ' ∨ c = 'ς')
    (h : endsWord u.reverse v = true) :
    lower (u ++ c :: v) = lowerBetween [] (c :: v) u ++ 'ς' :: lowerFrom (c :: u.reverse) v := by
  rw [lower, lowerFrom_append_eq, List.append_nil, lowerFrom]
  rcases hc with rfl | rfl
  · rw [if_pos rfl, if_pos h, List.singleton_append]
  · rw [if_neg (by decide), lowerChar_finalSigma, List.singleton_append]

/-- **Whether a sigma ends a word shows in lower case.** -/
theorem hasFinalSigma_iff_lower :
    HasFinalSigma s ↔ ∃ u v, lower s = u ++ 'ς' :: v ∧ endsWord u.reverse v = true := by
  constructor
  · rintro ⟨u, c, v, rfl, hc, hends⟩
    exact ⟨_, _, lower_append_sigma u v hc hends, (endsWord_lower _ _ u v).trans hends⟩
  · rintro ⟨u, v, hs, hends⟩
    obtain ⟨a, c, b, rfl, hc, rfl, rfl⟩ := exists_cut_lowerFrom hs
    rw [endsWord_lower] at hends
    exact ⟨a, c, b, rfl, hc, hends⟩

theorem hasFinalSigma_congr (h : lower s = lower t) : HasFinalSigma s ↔ HasFinalSigma t := by
  rw [hasFinalSigma_iff_lower, hasFinalSigma_iff_lower, h]

theorem not_hasFinalSigma_of_not_mem (h : 'ς' ∉ lower s) : ¬HasFinalSigma s := by
  rw [hasFinalSigma_iff_lower]
  rintro ⟨u, v, hs, -⟩
  exact h (by simp [hs])

/-! ### Two lower cases -/

theorem lowerFrom_eq_lowerEach {before : Text}
    (h : ∀ u v, s = u ++ 'Σ' :: v → endsWord (u.reverse ++ before) v = false) :
    lowerFrom before s = lowerEach s := by
  induction s generalizing before with
  | nil => rfl
  | cons c s ih =>
    have hrest : lowerFrom (c :: before) s = lowerEach s := by
      refine ih fun u v hs => ?_
      simpa using h (c :: u) v (by rw [hs, List.cons_append])
    have hpiece : lowerPiece (endsWord before s) c = lowerChar c := by
      rw [lowerPiece]
      split
      · next hc =>
        have hhead := h [] s (by rw [hc, List.nil_append])
        rw [List.reverse_nil, List.nil_append] at hhead
        rw [hhead, hc]
        decide
      · rfl
    rw [lowerFrom_cons, hrest, hpiece]
    rfl

/-- Without a sigma at the end of a word, both lower cases are the same. -/
theorem lower_eq_lowerEach (h : ¬HasFinalSigma s) : lower s = lowerEach s := by
  refine lowerFrom_eq_lowerEach fun u v hs => ?_
  rw [List.append_nil, ← Bool.not_eq_true]
  exact fun hends => h ⟨u, 'Σ', v, hs, Or.inl rfl, hends⟩

/-- A sigma that ends a word may be written in the other way without a difference in lower case. -/
theorem lower_exchange (u v : Text) (h : endsWord u.reverse v = true) :
    lower (u ++ 'Σ' :: v) = lower (u ++ 'ς' :: v) := by
  have hsight : sight ['Σ'] = sight ['ς'] := by decide
  have hcased : ∀ t : Text, casedFirst ('Σ' :: t) = casedFirst ('ς' :: t) := fun t => by
    rw [casedFirst_cons_eq, casedFirst_cons_eq 'ς', hsight]
  have hfront : lowerBetween [] ('Σ' :: v) u = lowerBetween [] ('ς' :: v) u := by
    refine lowerBetween_congr fun x y _ => ?_
    rw [endsWord, endsWord, casedFirst_append y, casedFirst_append y, hcased]
  rw [lower_append_sigma u v (Or.inl rfl) h, lower_append_sigma u v (Or.inr rfl) h, hfront,
    lowerFrom_congr (hcased _)]

/-- **A sigma that ends a word has two spellings**: another text has the same lower case, but not
character by character. -/
theorem HasFinalSigma.exists_other (h : HasFinalSigma s) :
    ∃ t, lower t = lower s ∧ lowerEach t ≠ lowerEach s := by
  obtain ⟨u, c, v, rfl, hc, hends⟩ := h
  have hne : lowerEach (u ++ 'Σ' :: v) ≠ lowerEach (u ++ 'ς' :: v) := by
    simp only [lowerEach, List.flatMap_append, List.flatMap_cons, ne_eq, List.append_cancel_left_eq]
    rw [lowerChar_finalSigma, show lowerChar 'Σ' = ['σ'] by decide]
    simp
  rcases hc with rfl | rfl
  · exact ⟨u ++ 'ς' :: v, (lower_exchange u v hends).symm, hne.symm⟩
  · exact ⟨u ++ 'Σ' :: v, lower_exchange u v hends, hne⟩

/-- **The lower case of a text determines its lower case character by character** exactly if no
sigma in it ends a word. -/
theorem lowerEach_determined_iff :
    (∀ t, lower t = lower s → lowerEach t = lowerEach s) ↔ ¬HasFinalSigma s := by
  constructor
  · intro hall hfinal
    obtain ⟨t, hlower, hne⟩ := hfinal.exists_other
    exact hne (hall t hlower)
  · intro hs t hlower
    have ht : ¬HasFinalSigma t := mt (hasFinalSigma_congr hlower).mp hs
    rw [← lower_eq_lowerEach ht, hlower, lower_eq_lowerEach hs]

end Text

end NoteSieve
