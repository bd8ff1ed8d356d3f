import NoteSieve.Proofs.Text.Fold
import NoteSieve.Proofs.Unicode.Canonical

/-!
# Folds of different spellings

The fold of a search field drops the marks of a text that has been taken apart. Sorting the marks
first has then no effect, so what is left (`NoteSieve.Text.bare`) is a matter of each character
alone, and **a fold of two texts in a row is the folds of the two** (`NoteSieve.Text.bare_append`) –
which a composed form is not.

From that and from what is known of canonical equivalence (`NoteSieve.Unicode.decomposed_composed`,
`NoteSieve.Unicode.decomposed_lower`) follow

* `NoteSieve.Text.fold_letter_by_letter`: a fold that ignores marks takes the characters of the text
  apart one by one, and nothing is left to see of the sorting;
* `NoteSieve.Text.bare_fold_caseless`: the fold of a search field is a function of the fold that
  ignores only case, and keeps what occurs in what;
* `NoteSieve.Text.fold_congr`: any fold but the exact one is the same for all spellings of a text;
* `NoteSieve.Text.fold_caseless_eq_iff`: the fold that ignores only case is the same for nothing
  else, so texts that have it in common have the same marks (`NoteSieve.Text.marks`).
-/

namespace NoteSieve.Text

open Unicode

variable {s t : Text}

/-! ### Without marks -/

/-- **The letters of a text**: its characters taken apart, without their marks. -/
def bare (s : Text) : Text := (s.flatMap decomposition).filter fun c => !isMark c

@[simp]
theorem bare_append (s t : Text) : bare (s ++ t) = bare s ++ bare t := by
  rw [bare, List.flatMap_append, List.filter_append, bare, bare]

/-- What is moved over marks is a mark itself. -/
theorem filter_insertMark (c : Char) (s : Text) :
    (insertMark c s).filter (fun d => !isMark d) = (c :: s).filter fun d => !isMark d := by
  induction s with
  | nil => rfl
  | cons d s ih =>
    rw [insertMark]
    split
    · next hcross =>
      have hdropped : ∀ u : Text,
          (c :: u).filter (fun d => !isMark d) = u.filter fun d => !isMark d :=
        fun u => List.filter_cons_of_neg (by simp [isMark_of_class (c := c) (by omega)])
      rw [List.filter_cons, ih, hdropped, hdropped, List.filter_cons]
    · rfl

/-- **Sorting moves nothing but marks.** -/
theorem filter_orderMarks (s : Text) :
    (orderMarks s).filter (fun d => !isMark d) = s.filter fun d => !isMark d := by
  induction s with
  | nil => rfl
  | cons c s ih => rw [orderMarks, filter_insertMark, List.filter_cons, ih, List.filter_cons]

theorem filter_decomposed (s : Text) : (decomposed s).filter (fun d => !isMark d) = bare s :=
  filter_orderMarks (s.flatMap decomposition)

theorem bare_congr (h : decomposed s = decomposed t) : bare s = bare t := by
  rw [← filter_decomposed, h, filter_decomposed]

/-! ### The two folds -/

theorem fold_loose (s : Text) : fold .loose s = bare (lower s) := filter_decomposed (lower s)

theorem fold_caseless (s : Text) : fold .caseless s = composed (lower s) := rfl

/-- **The fold of a search field is what is left of the fold that ignores only case.** -/
theorem bare_fold_caseless (s : Text) : bare (fold .caseless s) = fold .loose s := by
  rw [fold_caseless, fold_loose]
  exact bare_congr (decomposed_composed (lower s))

/-! ### Letter by letter -/

/-- The parts of a character are in order as they stand. -/
theorem decomposed_singleton (c : Char) : decomposed [c] = decomposition c := by
  rw [decomposed, List.flatMap_singleton, (isOrdered_decomposition c).orderMarks_eq]

theorem fold_of_ignoresMarks {c : Comparison} (hc : c.ignoresMarks = true) (s : Text) :
    fold c s = bare (if c.ignoresCase then lower s else s) := by
  have hexact : c ≠ .exact := by
    rintro rfl
    exact Bool.noConfusion hc
  rw [fold, if_neg hexact, if_pos hc, filter_decomposed]

/-- **A fold that ignores marks takes the text letter by letter.** It puts the text in lower case if
case is to be ignored, takes each character apart on its own, as far as it goes, and leaves the
marks out. That the marks of the whole text are sorted in between does not show, since nothing but
marks is moved. So as long as case counts, two texts in a row are folded one after the other,
wherever the cut is. -/
theorem fold_letter_by_letter {c : Comparison} (hc : c.ignoresMarks = true) (s : Text) :
    (fold c s = (if c.ignoresCase then lower s else s).flatMap
      fun d => (decomposition d).filter fun e => !isMark e) ∧
    (∀ d, decomposed [d] = decomposition d ∧ ∀ e ∈ decomposition d, decomposition e = [e]) ∧
    (∀ t : Text, (orderMarks t).filter (fun e => !isMark e) = t.filter fun e => !isMark e) ∧
    ∀ a b : Text, fold ⟨false, true⟩ (a ++ b) = fold ⟨false, true⟩ a ++ fold ⟨false, true⟩ b := by
  refine ⟨?_, fun d => ⟨decomposed_singleton d, ?_⟩, filter_orderMarks, fun a b => ?_⟩
  · rw [fold_of_ignoresMarks hc, bare, List.filter_flatMap]
  · exact fun e he => decomposition_of_mem_decomposition he
  · have hfold : ∀ t, fold ⟨false, true⟩ t = bare t := fold_of_ignoresMarks rfl
    rw [hfold, hfold, hfold, bare_append]

/-- Three marks that are not in order, over a capital letter that has a fourth: they are sorted
across the letter's own mark and dropped. -/
theorem fold_letter_by_letter_marks :
    Comparison.loose.ignoresMarks = true ∧
    decomposed ['É', '\u0323', '\u0301', '\u0327', 'Σ']
      = ['E', '\u0327', '\u0323', '\u0301', '\u0301', 'Σ'] ∧
    fold .loose ['É', '\u0323', '\u0301', '\u0327', 'Σ'] = ['e', 'ς'] := by
  refine ⟨rfl, by decide +kernel, ?_⟩
  rw [(fold_letter_by_letter (c := .loose) rfl _).1]
  decide +kernel

/-! ### What occurs in what -/

theorem bare_isInfix (h : s <:+: t) : bare s <:+: bare t := by
  obtain ⟨u, v, rfl⟩ := h
  exact ⟨bare u, bare v, by simp⟩

/-- **What occurs without regard to case occurs without regard to marks as well.** -/
theorem occursIn_loose (h : occursIn (fold .caseless s) (fold .caseless t) = true) :
    occursIn (fold .loose s) (fold .loose t) = true := by
  rw [← bare_fold_caseless, ← bare_fold_caseless, occursIn_iff_infix]
  exact bare_isInfix (Iff.mp occursIn_iff_infix h)

/-! ### Spellings of one text -/

theorem decomposed_lower_congr (h : decomposed s = decomposed t) :
    decomposed (lower s) = decomposed (lower t) := by
  rw [decomposed_lower, decomposed_lower, h]

/-- **Every fold but the exact one is the same for all spellings of a text.** -/
theorem fold_congr {c : Comparison} (hc : c.ignoresCase = true ∨ c.ignoresMarks = true)
    (h : decomposed s = decomposed t) : fold c s = fold c t := by
  have hexact : c ≠ .exact := by
    rintro rfl
    simp [Comparison.exact] at hc
  have hcased : decomposed (if c.ignoresCase then lower s else s)
      = decomposed (if c.ignoresCase then lower t else t) := by
    split
    · exact decomposed_lower_congr h
    · exact h
  rw [fold, fold, if_neg hexact, if_neg hexact]
  dsimp only
  rw [composed, composed, hcased]

/-- **To ignore only case is to compare the spellings of the lower case.** -/
theorem fold_caseless_eq_iff :
    fold .caseless s = fold .caseless t ↔ decomposed (lower s) = decomposed (lower t) := by
  constructor
  · intro h
    rw [← decomposed_composed, ← fold_caseless, h, fold_caseless, decomposed_composed]
  · intro h
    rw [fold_caseless, fold_caseless, composed, composed, h]

/-! ### Marks -/

/-- **The marks of a text**: what is left of it, taken apart, without its letters. -/
def marks (s : Text) : Text := (decomposed s).filter isMark

/-- A character and what stands for it in lower case are the same mark, or neither is one. -/
theorem filter_isMark_lowerPiece {c : Char} (hc : c ≠ '\u0130') (final : Bool) :
    (lowerPiece final c).filter isMark = [c].filter isMark := by
  by_cases hsigma : c = 'Σ'
  · subst hsigma
    cases final <;> decide
  rw [lowerPiece_of_ne hsigma]
  cases hmark : isMark c with
  | true => rw [lowerChar_of_isMark hmark]
  | false =>
    have hnone : ∀ d ∈ lowerChar c, ¬isMark d = true := fun d hd => by
      simp [isMark_of_mem_lowerChar hc hd, hmark]
    rw [List.filter_eq_nil_iff.mpr hnone, List.filter_cons_of_neg (by simp [hmark]),
      List.filter_nil]

theorem filter_isMark_lowerFrom (hs : '\u0130' ∉ s) (before : Text) :
    (lowerFrom before s).filter isMark = s.filter isMark := by
  induction s generalizing before with
  | nil => rfl
  | cons c s ih =>
    obtain ⟨hc, hs⟩ := not_or.mp (List.mem_cons.not.mp hs)
    rw [lowerFrom_cons, List.filter_append, filter_isMark_lowerPiece (Ne.symm hc), ih hs,
      ← List.filter_append, List.singleton_append]

/-- **A change of case keeps the marks.** -/
theorem marks_lower (s : Text) : marks (lower s) = marks s := by
  have hdotted : '\u0130' ∉ decomposed s :=
    fun hmem => dottedI_not_mem_flatMap s (mem_orderMarks.mp hmem)
  rw [marks, decomposed_lower, lower, filter_isMark_lowerFrom hdotted, marks]

theorem marks_eq_of_fold_caseless_eq (h : fold .caseless s = fold .caseless t) :
    marks s = marks t := by
  rw [← marks_lower s, marks, fold_caseless_eq_iff.mp h, ← marks, marks_lower]

end NoteSieve.Text
