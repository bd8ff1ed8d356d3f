import NoteSieve.Proofs.Text.Spelling

/-!
# A piece of a text in lower case

Lower case is taken of a whole text. For a piece of it that makes a difference in one point: a
capital sigma at an end of the piece may be at the end of a word there and not in the whole text, or
the other way round. `NoteSieve.Unicode.lowerBetween` is the lower case of a piece with what stands
around it, and the lower case of the whole is made of these
(`NoteSieve.Unicode.lowerFrom_append_eq`).

* A sigma is *open* if what stands around the piece decides its form
  (`NoteSieve.Text.HasOpenSigma`): on one side of it everything in the piece is passed over, and the
  other side does not settle the matter. **Without an open sigma a piece has the same lower case
  everywhere** (`NoteSieve.Text.keepsSigmas_of_not_open`).
* If the forms of the sigmas stay, the fold of a search field finds the piece
  (`NoteSieve.Text.KeepsSigmas.isFound`). If there is an open sigma, one letter next to the piece is
  enough for it not to be found (`NoteSieve.Text.HasOpenSigma.exists_missed`).
-/

namespace NoteSieve

namespace Unicode

variable {s : List Char}

/-- Puts a piece of a text in lower case, given what stands before it, backwards, and what stands
behind it. -/
def lowerBetween (before after : List Char) : List Char → List Char
  | [] => []
  | c :: rest =>
    (if c = 'Σ' then [if endsWord before (rest ++ after) then 'ς' else 'σ'] else lowerChar c)
      ++ lowerBetween (c :: before) after rest

/-- **The lower case of a text is made of those of its pieces**, each between the others. -/
theorem lowerFrom_append_eq (before s t : List Char) :
    lowerFrom before (s ++ t) = lowerBetween before t s ++ lowerFrom (s.reverse ++ before) t := by
  induction s generalizing before with
  | nil => rfl
  | cons c s ih =>
    rw [List.cons_append, lowerFrom, ih, lowerBetween, List.append_assoc, List.reverse_cons,
      List.append_assoc, List.singleton_append]

theorem lowerFrom_eq_lowerBetween (before s : List Char) :
    lowerFrom before s = lowerBetween before [] s := by
  have h := lowerFrom_append_eq before s []
  rwa [List.append_nil, lowerFrom, List.append_nil] at h

theorem sight_eq_none_iff : sight s = none ↔ ∀ c ∈ s, isCaseIgnorable c = true := by
  rw [sight, Option.map_eq_none_iff, List.find?_eq_none]
  simp

theorem sight_reverse_eq_none_iff : sight s.reverse = none ↔ sight s = none := by
  rw [sight_eq_none_iff, sight_eq_none_iff]
  simp

end Unicode

namespace Text

open Unicode

variable {s u v a b : Text} {x : Char}

/-! ### Open sigmas -/

/-- The sigmas of a piece have the same form between two texts as they have in the piece alone. -/
def KeepsSigmas (a s b : Text) : Prop :=
  ∀ u v, s = u ++ 'Σ' :: v →
    endsWord (u.reverse ++ a.reverse) (v ++ b) = endsWord u.reverse v

/-- **A capital sigma whose form is decided by what stands around the text**: all that is on one
side of it is passed over in the search for a letter, and what is found on the other side leaves
both forms possible. -/
def HasOpenSigma (s : Text) : Prop :=
  ∃ u v, s = u ++ 'Σ' :: v ∧
    (((∀ c ∈ u, isCaseIgnorable c = true) ∧ casedFirst v = false) ∨
      (casedFirst u.reverse = true ∧ ∀ c ∈ v, isCaseIgnorable c = true))

/-- **Without an open sigma a text has the same lower case everywhere.** -/
theorem keepsSigmas_of_not_open (h : ¬HasOpenSigma s) (a b : Text) : KeepsSigmas a s b := by
  intro u v hs
  rw [endsWord, endsWord, casedFirst_append, casedFirst_append, casedFirst_eq u.reverse,
    casedFirst_eq v]
  cases hfront : sight u.reverse with
  | none =>
    -- The front is open, so there has to be a letter behind, which is all that counts then.
    have hpassed := sight_eq_none_iff.mp (sight_reverse_eq_none_iff.mp hfront)
    have hback : casedFirst v = true := by
      rw [← Bool.not_eq_false]
      exact fun hv => h ⟨u, v, hs, Or.inl ⟨hpassed, hv⟩⟩
    rw [casedFirst_eq] at hback
    cases hv : sight v with
    | none => simp [hv] at hback
    | some cased =>
      obtain rfl : cased = true := by simpa [hv] using hback
      simp
  | some cased =>
    cases hv : sight v with
    | some _ => rfl
    | none =>
      have hcased : cased = false := by
        rw [← Bool.not_eq_true]
        rintro rfl
        exact h ⟨u, v, hs, Or.inr ⟨by rw [casedFirst_eq, hfront]; rfl, sight_eq_none_iff.mp hv⟩⟩
      simp [hcased]

/-! ### The letters of a piece -/

theorem bare_sigma (final : Bool) :
    bare [if final then 'ς' else 'σ'] = [if final then 'ς' else 'σ'] := by
  cases final <;> decide +kernel

theorem lowerBetween_congr {before after before' after' : Text}
    (h : ∀ u v, s = u ++ 'Σ' :: v →
      endsWord (u.reverse ++ before) (v ++ after) = endsWord (u.reverse ++ before') (v ++ after')) :
    lowerBetween before after s = lowerBetween before' after' s := by
  induction s generalizing before before' with
  | nil => rfl
  | cons c s ih =>
    have hrest : lowerBetween (c :: before) after s = lowerBetween (c :: before') after' s :=
      ih fun u v hs => by simpa [hs] using h (c :: u) v
    rw [lowerBetween, lowerBetween, hrest]
    by_cases hc : c = 'Σ'
    · have hhead := h [] s (by rw [hc]; rfl)
      rw [List.reverse_nil, List.nil_append, List.nil_append] at hhead
      rw [hhead]
    · rw [if_neg hc, if_neg hc]

/-- **The letters of a piece tell the forms of its sigmas.** -/
theorem endsWord_eq_of_bare_eq {before after before' after' : Text}
    (h : bare (lowerBetween before after s) = bare (lowerBetween before' after' s))
    (hs : s = u ++ 'Σ' :: v) :
    endsWord (u.reverse ++ before) (v ++ after)
      = endsWord (u.reverse ++ before') (v ++ after') := by
  subst hs
  -- The letters of what stands before the sigma are the same, and those of the sigma are its form.
  induction u generalizing before before' with
  | nil =>
    rw [List.nil_append, lowerBetween, lowerBetween, if_pos rfl, if_pos rfl, bare_append,
      bare_append, bare_sigma, bare_sigma] at h
    have hhead := (List.cons.inj h).1
    revert hhead
    rw [List.reverse_nil, List.nil_append, List.nil_append]
    cases endsWord before (v ++ after) <;> cases endsWord before' (v ++ after') <;> decide
  | cons c u ih =>
    rw [List.reverse_cons, List.append_assoc, List.append_assoc]
    refine ih ?_
    rw [List.cons_append, lowerBetween, lowerBetween, bare_append, bare_append] at h
    by_cases hc : c = 'Σ'
    · rw [if_pos hc, if_pos hc, bare_sigma, bare_sigma] at h
      exact (List.cons.inj h).2
    · rw [if_neg hc, if_neg hc] at h
      exact List.append_cancel_left h

theorem length_bare_lowerBetween (s before after before' after' : Text) :
    (bare (lowerBetween before after s)).length
      = (bare (lowerBetween before' after' s)).length := by
  induction s generalizing before before' with
  | nil => rfl
  | cons c s ih =>
    have hrest := ih (c :: before) (c :: before')
    rw [lowerBetween, lowerBetween, bare_append, bare_append, List.length_append,
      List.length_append, hrest]
    by_cases hc : c = 'Σ'
    · rw [if_pos hc, if_pos hc, bare_sigma, bare_sigma]
      rfl
    · rw [if_neg hc, if_neg hc]

/-- The sigmas of a piece keep their form if the piece has the lower case that it has alone. -/
theorem keepsSigmas_iff : KeepsSigmas a s b ↔ lowerBetween a.reverse b s = lower s := by
  rw [lower, lowerFrom_eq_lowerBetween]
  constructor
  · intro h
    refine lowerBetween_congr fun u v hs => ?_
    rw [h u v hs, List.append_nil, List.append_nil]
  · intro h u v hs
    have hform := endsWord_eq_of_bare_eq (congrArg bare h) hs
    rwa [List.append_nil, List.append_nil] at hform

instance (a s b : Text) : Decidable (KeepsSigmas a s b) :=
  decidable_of_iff _ keepsSigmas_iff.symm

/-! ### Finding a piece -/

/-- **The fold of a text finds the text wherever its sigmas keep their form.** -/
theorem KeepsSigmas.isFound (h : KeepsSigmas a s b) :
    fold .loose s <:+: fold .loose (a ++ s ++ b) := by
  have hpiece := keepsSigmas_iff.mp h
  rw [fold_loose, fold_loose, List.append_assoc, lower, lower, lowerFrom_append_eq,
    lowerFrom_append_eq, List.append_nil, hpiece, ← List.append_assoc]
  simp only [bare_append]
  exact ⟨_, _, rfl⟩

/-- A letter to be put next to a text, other than one given. -/
theorem exists_letter (o : Option Char) : ∃ x : Char, o ≠ some x ∧ x ≠ 'Σ' ∧
    lowerChar x = [x] ∧ bare [x] = [x] ∧ casedFirst [x] = true := by
  by_cases ho : o = some 'a'
  · exact ⟨'b', by rw [ho]; decide, by decide⟩
  · exact ⟨'a', ho, by decide⟩

/-- A text of the length of another occurs behind one more letter only if it is the other or begins
with the letter. -/
theorem not_infix_cons (hlength : u.length = v.length) (hne : u ≠ v) (hhead : u.head? ≠ some x) :
    ¬u <:+: x :: v := by
  rw [List.infix_cons_iff, not_or]
  refine ⟨fun hfront => ?_, fun hwithin => hne (hwithin.eq_of_length hlength)⟩
  rcases List.prefix_cons_iff.mp hfront with rfl | ⟨t, rfl, -⟩
  · exact hne (List.eq_nil_of_length_eq_zero hlength.symm).symm
  · exact hhead rfl

theorem not_infix_concat (hlength : u.length = v.length) (hne : u ≠ v)
    (hlast : u.getLast? ≠ some x) : ¬u <:+: v ++ [x] := by
  rw [← List.reverse_infix, List.reverse_append]
  refine not_infix_cons (by simpa using hlength) (fun h => hne (List.reverse_injective h)) ?_
  rwa [List.head?_reverse]

/-- **A text with an open sigma is not found everywhere**: one letter before it or behind it turns
the sigma into its other form. -/
theorem HasOpenSigma.exists_missed (h : HasOpenSigma s) :
    ∃ a b : Text, ¬fold .loose s <:+: fold .loose (a ++ s ++ b) := by
  obtain ⟨u, v, hs, hopen⟩ := h
  have hself : fold .loose s = bare (lowerBetween [] [] s) := by
    rw [fold_loose, lower, lowerFrom_eq_lowerBetween]
  rcases hopen with ⟨hpassed, hv⟩ | ⟨hu, hpassed⟩
  · obtain ⟨x, hx, hsigma, hlower, hplain, hcased⟩ := exists_letter (fold .loose s).head?
    refine ⟨[x], [], ?_⟩
    have hwhole : fold .loose ([x] ++ s ++ []) = x :: bare (lowerBetween [x] [] s) := by
      rw [fold_loose, List.append_nil, List.singleton_append, lower, lowerFrom, if_neg hsigma,
        hlower, lowerFrom_eq_lowerBetween, bare_append, hplain, List.singleton_append]
    rw [hwhole]
    refine not_infix_cons (hself ▸ length_bare_lowerBetween s _ _ _ _) (fun heq => ?_) hx
    have hform : endsWord u.reverse v = endsWord (u.reverse ++ [x]) v := by
      simpa using endsWord_eq_of_bare_eq (hself.symm.trans heq) hs
    have hnone := sight_reverse_eq_none_iff.mpr (sight_eq_none_iff.mpr hpassed)
    have halone : casedFirst u.reverse = false := by rw [casedFirst_eq, hnone, Option.getD_none]
    have hletter : casedFirst (u.reverse ++ [x]) = true := by
      rw [casedFirst_append, hnone, Option.getD_none, hcased]
    rw [endsWord, endsWord, halone, hletter, hv] at hform
    exact absurd hform (by decide)
  · obtain ⟨x, hx, hsigma, hlower, hplain, hcased⟩ := exists_letter (fold .loose s).getLast?
    refine ⟨[], [x], ?_⟩
    have hwhole : fold .loose ([] ++ s ++ [x]) = bare (lowerBetween [] [x] s) ++ [x] := by
      rw [fold_loose, List.nil_append, lower, lowerFrom_append_eq, lowerFrom, if_neg hsigma,
        hlower, lowerFrom, List.append_nil, bare_append, hplain]
    rw [hwhole]
    refine not_infix_concat (hself ▸ length_bare_lowerBetween s _ _ _ _) (fun heq => ?_) hx
    have hform : endsWord u.reverse v = endsWord u.reverse (v ++ [x]) := by
      simpa using endsWord_eq_of_bare_eq (hself.symm.trans heq) hs
    have hnone := sight_eq_none_iff.mpr hpassed
    have halone : casedFirst v = false := by rw [casedFirst_eq, hnone, Option.getD_none]
    have hletter : casedFirst (v ++ [x]) = true := by
      rw [casedFirst_append, hnone, Option.getD_none, hcased]
    rw [endsWord, endsWord, halone, hletter, hu] at hform
    exact absurd hform (by decide)

end Text

end NoteSieve
