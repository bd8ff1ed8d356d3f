import NoteSieve.Proofs.Unicode.Cut
import NoteSieve.Text.Fold

/-!
# Cutting a fold

A text and its fold are cut at the same places by an inert character `q`
(`NoteSieve.Unicode.IsInert`). In one direction this is `NoteSieve.Text.fold_append_cons`: the fold
of `s ++ q :: t` is that of `s`, then `q`, then that of `t`. In the other it is
`NoteSieve.Text.exists_cut_of_fold_eq`: wherever the fold has a `q`, the text has one, and the fold
of what stands on either side of it is what stands there in the fold.

Together they turn a question about a fold – does a text between two quotes occur in it? – into one
about the text itself (`NoteSieve.Text.occursIn_fold_iff`).
-/

namespace NoteSieve.Text

open Unicode

variable {q : Char} {s t : Text}

/-! ### One cut -/

@[simp]
theorem fold_nil (c : Comparison) : fold c [] = [] := by
  rw [fold]
  split
  · rfl
  · dsimp only
    split <;> split <;> rfl

/-- **A text is folded on both sides of an inert character separately.** -/
theorem fold_append_cons (hq : IsInert q) (c : Comparison) (s t : Text) :
    fold c (s ++ q :: t) = fold c s ++ q :: fold c t := by
  by_cases hexact : c = .exact
  · simp only [fold, if_pos hexact]
  · have hkept : ∀ u : Text,
        (q :: u).filter (fun d => !isMark d) = q :: u.filter fun d => !isMark d :=
      fun u => List.filter_cons_of_pos (by rw [hq.not_mark, Bool.not_false])
    simp only [fold, if_neg hexact]
    split <;> split
    · rw [lower_append_cons hq, decomposed_append_cons hq, List.filter_append, hkept]
    · rw [decomposed_append_cons hq, List.filter_append, hkept]
    · rw [lower_append_cons hq, composed_append_cons hq]
    · rw [composed_append_cons hq]

theorem fold_cons (hq : IsInert q) (c : Comparison) (t : Text) :
    fold c (q :: t) = q :: fold c t := by
  have h := fold_append_cons hq c [] t
  rwa [fold_nil, List.nil_append, List.nil_append] at h

theorem fold_eq_self_of_inert (c : Comparison) (h : ∀ d ∈ s, IsInert d) : fold c s = s := by
  induction s with
  | nil => exact fold_nil c
  | cons d s ih =>
    rw [fold_cons (h d List.mem_cons_self), ih fun e he => h e (List.mem_cons_of_mem d he)]

/-- **A fold has an inert character exactly when the text has.** -/
theorem mem_fold_iff (hq : IsInert q) (c : Comparison) : q ∈ fold c s ↔ q ∈ s := by
  constructor
  · intro h
    by_cases hexact : c = .exact
    · rwa [fold, if_pos hexact] at h
    · have hcased : q ∈ (if c.ignoresCase then lower s else s) → q ∈ s := by
        split
        · exact hq.mem_lowerFrom s []
        · exact id
      simp only [fold, if_neg hexact] at h
      split at h
      · exact hcased (hq.mem_decomposed (List.mem_filter.mp h).1)
      · exact hcased (hq.mem_composed h)
  · intro h
    obtain ⟨u, v, rfl⟩ := List.append_of_mem h
    rw [fold_append_cons hq]
    simp

theorem fold_append_of_inert (c : Comparison) (h : ∀ d ∈ s, IsInert d) (t : Text) :
    fold c (s ++ t) = s ++ fold c t := by
  induction s with
  | nil => rfl
  | cons d s ih =>
    rw [List.cons_append, fold_cons (h d List.mem_cons_self),
      ih fun e he => h e (List.mem_cons_of_mem d he), List.cons_append]

/-- The fold of a search field keeps a letter from a to z at the front. -/
theorem letter_mem_fold {d : Char} (hd : d.toNat ∈ letterCodePoints) (s : Text) :
    d ∈ fold .loose (d :: s) := by
  obtain ⟨hlower, hdecomposition, hmark⟩ := letter_plain hd
  have hsigma : d ≠ 'Σ' := by
    rintro rfl
    exact absurd hd (by decide)
  have hcased : d ∈ lower (d :: s) := by
    rw [lower, lowerFrom, if_neg hsigma, hlower]
    exact List.mem_cons_self
  have hapart : d ∈ decomposed (lower (d :: s)) :=
    mem_decomposed.mpr ⟨d, hcased, by rw [hdecomposition]; exact List.mem_singleton_self d⟩
  exact List.mem_filter.mpr ⟨hapart, by rw [hmark]; rfl⟩

/-- A text is free of a class of characters, or it is cut by the first of them. -/
theorem eq_append_first (p : Char → Bool) (s : Text) :
    (∀ d ∈ s, p d = false) ∨
      ∃ u q t, s = u ++ q :: t ∧ p q = true ∧ ∀ d ∈ u, p d = false := by
  induction s with
  | nil => exact Or.inl fun d hd => absurd hd List.not_mem_nil
  | cons c s ih =>
    cases hc : p c with
    | true => exact Or.inr ⟨[], c, s, rfl, hc, fun d hd => absurd hd List.not_mem_nil⟩
    | false =>
      rcases ih with h | ⟨u, q, t, rfl, hq, hu⟩
      · exact Or.inl (List.forall_mem_cons.mpr ⟨hc, h⟩)
      · exact Or.inr ⟨c :: u, q, t, rfl, hq, List.forall_mem_cons.mpr ⟨hc, hu⟩⟩

/-- **A fold commutes with writing inert characters otherwise**, as long as other inert characters
are written for them. -/
theorem fold_flatMap (c : Comparison) {p : Char → Bool} {f : Char → Text}
    (hp : ∀ d, p d = true → IsInert d ∧ f d ≠ [] ∧ ∀ e ∈ f d, IsInert e)
    (hf : ∀ d, p d = false → f d = [d]) (s : Text) :
    fold c (s.flatMap f) = (fold c s).flatMap f := by
  have hself : ∀ u : Text, (∀ d ∈ u, p d = false) → u.flatMap f = u := fun u hu => by
    rw [List.flatMap_congr fun d hd => hf d (hu d hd), List.flatMap_singleton']
  have hfold : ∀ u : Text, (∀ d ∈ u, p d = false) → ∀ d ∈ fold c u, p d = false := by
    intro u hu d hd
    by_contra hc
    rw [Bool.not_eq_false] at hc
    exact Bool.noConfusion (hc.symm.trans (hu d ((mem_fold_iff (hp d hc).1 c).mp hd)))
  -- The induction takes the text apart at its first character that is written otherwise.
  obtain ⟨n, hn⟩ : ∃ n, s.length = n := ⟨_, rfl⟩
  induction n using Nat.strongRecOn generalizing s with
  | _ n ih =>
    rcases eq_append_first p s with hs | ⟨u, q, t, rfl, hq, hu⟩
    · rw [hself s hs, hself _ (hfold s hs)]
    · obtain ⟨hinert, hne, hinerts⟩ := hp q hq
      obtain ⟨e, w, hw⟩ := List.exists_cons_of_ne_nil hne
      have he : IsInert e := hinerts e (by simp [hw])
      have hlength : t.length < n := by
        rw [← hn, List.length_append, List.length_cons]
        omega
      have ht := ih t.length hlength t rfl
      rw [hw] at hinerts
      rw [List.flatMap_append, List.flatMap_cons, hself u hu, hw, List.cons_append,
        fold_append_cons he, fold_append_of_inert c (fun d hd => hinerts d (by simp [hd])), ht,
        fold_append_cons hinert, List.flatMap_append, List.flatMap_cons, hself _ (hfold u hu), hw,
        List.cons_append]

/-! ### Back from the fold to the text -/

/-- **Wherever a fold has an inert character, the text is cut by it in the same way.** -/
theorem exists_cut_of_fold_eq (hq : IsInert q) {c : Comparison} {u v : Text}
    (h : fold c s = u ++ q :: v) :
    ∃ a b, s = a ++ q :: b ∧ fold c a = u ∧ fold c b = v := by
  -- The induction is on the cuts in front of the one looked for: the first `q` of the text is
  -- either that one or stands before it.
  obtain ⟨n, hn⟩ : ∃ n, s.length = n := ⟨_, rfl⟩
  induction n using Nat.strongRecOn generalizing s u with
  | _ n ih =>
    have hmem : q ∈ s := (mem_fold_iff hq c).mp (by simp [h])
    obtain ⟨a, b, rfl, ha⟩ := List.eq_append_cons_of_mem hmem
    have hfold : fold c a ++ q :: fold c b = u ++ q :: v := by rw [← fold_append_cons hq, h]
    have hnot : q ∉ fold c a := fun hmem => ha ((mem_fold_iff hq c).mp hmem)
    rcases List.append_eq_append_iff.mp hfold with ⟨x, hu, hx⟩ | ⟨x, hu, hx⟩
    · cases x with
      | nil =>
        rw [List.append_nil] at hu
        exact ⟨a, b, rfl, hu.symm, (List.cons.inj hx).2⟩
      | cons d x =>
        obtain ⟨rfl, hb⟩ := List.cons.inj hx
        have hlength : b.length < n := by
          rw [← hn, List.length_append, List.length_cons]
          omega
        obtain ⟨a', b', rfl, ha', hb'⟩ := ih b.length hlength hb rfl
        refine ⟨a ++ q :: a', b', by simp, ?_, hb'⟩
        rw [fold_append_cons hq, ha', hu]
    · cases x with
      | nil =>
        rw [List.append_nil] at hu
        exact ⟨a, b, rfl, hu, (List.cons.inj hx).2.symm⟩
      | cons d x =>
        obtain ⟨rfl, -⟩ := List.cons.inj hx
        exact absurd (by simp [hu]) hnot

/-- **What stands between two inert characters is found by its fold**: the text has two such
characters with a text of that fold between them. -/
theorem occursIn_fold_iff (hq : IsInert q) (c : Comparison) (m s : Text) :
    occursIn (fold c (q :: (m ++ [q]))) (fold c s) = true ↔
      ∃ a m' b, s = a ++ q :: (m' ++ q :: b) ∧ fold c m' = fold c m := by
  have hneedle : fold c (q :: (m ++ [q])) = q :: (fold c m ++ [q]) := by
    rw [fold_cons hq, fold_append_cons hq, fold_nil]
  rw [hneedle, occursIn_iff_infix]
  constructor
  · rintro ⟨u, v, h⟩
    have hs : fold c s = u ++ q :: (fold c m ++ q :: v) := by simp [← h]
    obtain ⟨a, r, rfl, -, hr⟩ := exists_cut_of_fold_eq hq hs
    obtain ⟨m', b, rfl, hm, -⟩ := exists_cut_of_fold_eq hq hr
    exact ⟨a, m', b, rfl, hm⟩
  · rintro ⟨a, m', b, rfl, hm⟩
    refine ⟨fold c a, fold c b, ?_⟩
    rw [fold_append_cons hq, fold_append_cons hq, hm]
    simp

end NoteSieve.Text
