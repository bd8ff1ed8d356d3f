import NoteSieve.Proofs.Text.Spelling
import NoteSieve.Proofs.Unicode.Front

/-!
# Folded texts

A fold is a normal form. What a comparison leaves out of account shows in the characters of a fold,
and in how they are spelled (`NoteSieve.Text.IsFolded`):

| left out of account | what a fold is |
|---|---|
| nothing | any text |
| case | in lower case and composed |
| marks | taken apart and without marks |
| case and marks | in lower case, taken apart and without marks |

**Every fold is folded** (`NoteSieve.Text.isFolded_fold`), **and a folded text is its own fold**
(`NoteSieve.Text.IsFolded.fold_eq`), so that folding twice is folding once
(`NoteSieve.Text.fold_fold`).

For the first, no step may undo what a step before it has done. A text is in lower case
(`NoteSieve.Unicode.IsLower`) when each of its characters is its own lower case, which is a matter
of each character alone. So are the two facts that the later steps need: the parts of a character in
lower case are in lower case, and so is the composite of two such characters. The rule for a final
sigma has nothing left to do in a second pass, since a capital sigma is not its own lower case.
-/

namespace NoteSieve

namespace Unicode

variable {c : Char} {s : List Char}

/-! ### Texts in lower case -/

/-- **A text whose characters are their own lower case.** -/
def IsLower (s : List Char) : Prop := ∀ c ∈ s, lowerChar c = [c]

theorem isLower_lowerPiece (final : Bool) (c : Char) : IsLower (lowerPiece final c) := by
  intro d hd
  rw [lowerPiece] at hd
  split at hd
  · obtain rfl := List.mem_singleton.mp hd
    split <;> decide
  · exact lowerChar_of_mem_lowerChar hd

/-- Putting a text in lower case makes it one, wherever it stands. -/
theorem isLower_lowerFrom (before s : List Char) : IsLower (lowerFrom before s) := by
  induction s generalizing before with
  | nil => exact List.forall_mem_nil _
  | cons c s ih =>
    rw [lowerFrom_cons]
    exact List.forall_mem_append.mpr ⟨isLower_lowerPiece _ c, ih (c :: before)⟩

/-- **A text in lower case stays as it is.** There is no capital sigma in it, so it does not matter
what stands before it. -/
theorem IsLower.lowerFrom_eq (h : IsLower s) (before : List Char) : lowerFrom before s = s := by
  induction s generalizing before with
  | nil => rfl
  | cons c s ih =>
    obtain ⟨hc, hs⟩ := List.forall_mem_cons.mp h
    have hsigma : c ≠ 'Σ' := by
      rintro rfl
      exact absurd hc (by decide)
    rw [lowerFrom_cons, lowerPiece_of_ne hsigma, hc, ih hs, List.singleton_append]

theorem isLower_lower (s : List Char) : IsLower (lower s) := isLower_lowerFrom [] s

theorem IsLower.lower_eq (h : IsLower s) : lower s = s := h.lowerFrom_eq []

/-- **The parts of a character in lower case are in lower case.** -/
theorem isLower_decomposition (h : lowerChar c = [c]) : IsLower (decomposition c) := by
  have hparts : (decomposition c).flatMap lowerChar = decomposition c := by
    rw [← lowerChar_flatMap, h, List.flatMap_singleton]
  intro d hd
  rw [← hparts] at hd
  obtain ⟨e, -, hde⟩ := List.mem_flatMap.mp hd
  exact lowerChar_of_mem_lowerChar hde

theorem IsLower.decomposed (h : IsLower s) : IsLower (decomposed s) := by
  intro d hd
  obtain ⟨c, hc, hdc⟩ := mem_decomposed.mp hd
  exact isLower_decomposition (h c hc) d hdc

/-- **Composing keeps a text in lower case.** -/
theorem IsLower.composed (h : IsLower s) : IsLower (composed s) :=
  forall_mem_compose (fun _ _ _ hcompose ha _ => (compositeFacts hcompose).lower_self ha)
    h.decomposed

/-! ### Composed texts -/

theorem composed_composed (s : List Char) : composed (composed s) = composed s := by
  rw [composed, decomposed_composed, ← composed]

end Unicode

namespace Text

open Unicode

variable {c : Comparison} {s front back : Text}

/-! ### The kinds of comparisons -/

/-- A comparison is exact, or it ignores only case, or it ignores marks. -/
theorem exact_or_caseless_or_ignoresMarks (c : Comparison) :
    c = .exact ∨ c = .caseless ∨ c.ignoresMarks = true := by
  rcases c with ⟨_ | _, _ | _⟩ <;> simp [Comparison.exact, Comparison.caseless]

/-! ### Folded texts -/

/-- **What a comparison makes of a text**: a text of which nothing more can be left out. -/
structure IsFolded (c : Comparison) (s : Text) : Prop where
  /-- Without regard to case, it is in lower case. -/
  lower : c.ignoresCase = true → IsLower s
  /-- Without regard to marks, it is taken apart. -/
  apart : c.ignoresMarks = true → IsApart s
  /-- Without regard to marks, it has none. -/
  bare : c.ignoresMarks = true → ∀ d ∈ s, isMark d = false
  /-- Without regard to case only, it is composed. -/
  composed : c = .caseless → composed s = s

theorem isFolded_exact (s : Text) : IsFolded .exact s where
  lower h := Bool.noConfusion h
  apart h := Bool.noConfusion h
  bare h := Bool.noConfusion h
  composed h := absurd h (by decide)

theorem isFolded_fold_caseless (s : Text) : IsFolded .caseless (fold .caseless s) where
  lower _ := (isLower_lower s).composed
  apart h := Bool.noConfusion h
  bare h := Bool.noConfusion h
  composed _ := composed_composed (Unicode.lower s)

theorem mem_bare {d : Char} :
    d ∈ bare s ↔ (∃ e ∈ s, d ∈ decomposition e) ∧ isMark d = false := by
  rw [bare, List.mem_filter, List.mem_flatMap, Bool.not_eq_true']

theorem isFolded_fold_of_ignoresMarks (hc : c.ignoresMarks = true) (s : Text) :
    IsFolded c (fold c s) := by
  rw [fold_of_ignoresMarks hc]
  refine ⟨fun hcase d hd => ?_, fun _ d hd => ?_, fun _ d hd => (mem_bare.mp hd).2, ?_⟩
  · rw [if_pos hcase] at hd
    obtain ⟨e, he, hde⟩ := (mem_bare.mp hd).1
    exact isLower_decomposition (isLower_lower s e he) d hde
  · obtain ⟨e, -, hde⟩ := (mem_bare.mp hd).1
    exact decomposition_of_mem_decomposition hde
  · rintro rfl
    exact Bool.noConfusion hc

/-- **Every fold is folded.** -/
theorem isFolded_fold (c : Comparison) (s : Text) : IsFolded c (fold c s) := by
  rcases exact_or_caseless_or_ignoresMarks c with rfl | rfl | hc
  · exact isFolded_exact _
  · exact isFolded_fold_caseless s
  · exact isFolded_fold_of_ignoresMarks hc s

/-- **A folded text is its own fold**: no step of folding changes it. -/
theorem IsFolded.fold_eq (h : IsFolded c s) : fold c s = s := by
  rcases exact_or_caseless_or_ignoresMarks c with rfl | rfl | hc
  · exact if_pos rfl
  · rw [fold_caseless, (h.lower rfl).lower_eq, h.composed rfl]
  · have hcased : (if c.ignoresCase then Unicode.lower s else s) = s := by
      split
      · next hcase => exact (h.lower hcase).lower_eq
      · rfl
    have hbare : ∀ d ∈ s, (!isMark d) = true := fun d hd => by rw [h.bare hc d hd, Bool.not_false]
    rw [fold_of_ignoresMarks hc, hcased, Text.bare, (h.apart hc).flatMap_eq,
      List.filter_eq_self.mpr hbare]

/-- What stands at the front of a folded text is folded. -/
theorem IsFolded.of_append (h : IsFolded c (front ++ back)) : IsFolded c front where
  lower hc := (List.forall_mem_append.mp (h.lower hc)).1
  apart hc := (isApart_append.mp (h.apart hc)).1
  bare hc := (List.forall_mem_append.mp (h.bare hc)).1
  composed hc := composed_front (h.composed hc)

/-- **Folding twice is folding once**, whatever is left out of account. -/
theorem fold_fold (c : Comparison) (s : Text) : fold c (fold c s) = fold c s :=
  (isFolded_fold c s).fold_eq

end Text

end NoteSieve
