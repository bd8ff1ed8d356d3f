import NoteSieve.Filter.Tags
import NoteSieve.Proofs.Text.Fold

/-!
# The written form of a tag

Between its quotes, a tag is written character by character, with a backslash before each
backslash and each slash (`NoteSieve.Text.written`). This is a prefix code: what a text was
written as can be taken off the front of a written text in one way only
(`NoteSieve.Text.written_eq_append`), so it is injective.

The characters it adds and those it adds them to are inert. So **the written form of a fold is the
fold of the written form** (`NoteSieve.Text.fold_written`), and a search for a quoted tag looks for
two quotes with a text of that fold between them (`NoteSieve.Text.occursIn_quotedTag_iff`).
-/

namespace NoteSieve.Text

open Unicode

variable {s t z : Text} {c : Char}

/-! ### A prefix code -/

/-- Whether a character is written with a backslash before it. -/
def isEscaped (c : Char) : Bool := c == '\\' || c == '/'

/-- A tag as it is written between its quotes. -/
def written (name : Text) : Text := name.flatMap escapeTagChar

theorem quotedTag_eq (name : Text) : quotedTag name = '"' :: (written name ++ ['"']) := rfl

theorem isEscaped_iff : isEscaped c = true ↔ c = '\\' ∨ c = '/' := by
  rw [isEscaped, Bool.or_eq_true, beq_iff_eq, beq_iff_eq]

theorem escapeTagChar_of_isEscaped (h : isEscaped c = true) : escapeTagChar c = ['\\', c] := by
  rw [escapeTagChar, if_pos (isEscaped_iff.mp h)]

theorem escapeTagChar_of_not_isEscaped (h : isEscaped c = false) : escapeTagChar c = [c] := by
  rw [escapeTagChar, if_neg]
  rw [← isEscaped_iff, h]
  exact Bool.false_ne_true

@[simp]
theorem written_nil : written [] = [] := rfl

theorem written_cons_of_isEscaped (h : isEscaped c = true) (s : Text) :
    written (c :: s) = '\\' :: c :: written s := by
  rw [written, List.flatMap_cons, escapeTagChar_of_isEscaped h]
  rfl

theorem written_cons_of_not_isEscaped (h : isEscaped c = false) (s : Text) :
    written (c :: s) = c :: written s := by
  rw [written, List.flatMap_cons, escapeTagChar_of_not_isEscaped h]
  rfl

/-- A text without a backslash and a slash is written as it is. -/
theorem written_eq_self (h : ∀ c ∈ s, isEscaped c = false) : written s = s := by
  induction s with
  | nil => rfl
  | cons c s ih =>
    rw [written_cons_of_not_isEscaped (h c List.mem_cons_self),
      ih fun d hd => h d (List.mem_cons_of_mem c hd)]

/-- A written text begins with a backslash that has an escaped character behind it, or with a
character that is written as it is. -/
theorem written_eq_cons (h : written s = c :: z) :
    (c = '\\' ∧ ∃ d t, isEscaped d = true ∧ s = d :: t ∧ z = d :: written t) ∨
      (isEscaped c = false ∧ ∃ t, s = c :: t ∧ z = written t) := by
  cases s with
  | nil => exact absurd h (by simp)
  | cons d t =>
    cases hd : isEscaped d with
    | true =>
      rw [written_cons_of_isEscaped hd] at h
      obtain ⟨rfl, rfl⟩ := List.cons.inj h
      exact Or.inl ⟨rfl, d, t, hd, rfl, rfl⟩
    | false =>
      rw [written_cons_of_not_isEscaped hd] at h
      obtain ⟨rfl, rfl⟩ := List.cons.inj h
      exact Or.inr ⟨hd, t, rfl, rfl⟩

/-- **Written texts are a prefix code**: behind a written text at its front, a written text goes on
with one. -/
theorem written_eq_append (h : written s = written t ++ z) : ∃ r, s = t ++ r ∧ z = written r := by
  induction t generalizing s with
  | nil => exact ⟨s, rfl, by simpa using h.symm⟩
  | cons c t ih =>
    cases hc : isEscaped c with
    | true =>
      rw [written_cons_of_isEscaped hc, List.cons_append, List.cons_append] at h
      rcases written_eq_cons h with ⟨-, d, u, -, rfl, hz⟩ | ⟨hback, -⟩
      · obtain ⟨rfl, hu⟩ := List.cons.inj hz
        obtain ⟨r, rfl, rfl⟩ := ih hu.symm
        exact ⟨r, rfl, rfl⟩
      · exact absurd hback (by decide)
    | false =>
      rw [written_cons_of_not_isEscaped hc, List.cons_append] at h
      rcases written_eq_cons h with ⟨rfl, -⟩ | ⟨-, u, rfl, hz⟩
      · exact absurd hc (by decide)
      · obtain ⟨r, rfl, rfl⟩ := ih hz.symm
        exact ⟨r, rfl, rfl⟩

theorem written_eq_nil (h : written s = []) : s = [] := by
  cases s with
  | nil => rfl
  | cons c s =>
    cases hc : isEscaped c with
    | true => exact absurd h (by simp [written_cons_of_isEscaped hc])
    | false => exact absurd h (by simp [written_cons_of_not_isEscaped hc])

theorem written_injective : Function.Injective written := by
  intro s t h
  have happend : written s = written t ++ [] := by rw [h, List.append_nil]
  obtain ⟨r, hs, hr⟩ := written_eq_append happend
  rw [hs, written_eq_nil hr.symm, List.append_nil]

theorem quote_mem_written : '"' ∈ written s ↔ '"' ∈ s := by
  induction s with
  | nil => rfl
  | cons c s ih =>
    cases hc : isEscaped c with
    | true =>
      have hne : '"' ≠ c := by
        rintro rfl
        exact absurd hc (by decide)
      simp [written_cons_of_isEscaped hc, ih, hne]
    | false => rw [written_cons_of_not_isEscaped hc, List.mem_cons, List.mem_cons, ih]

/-! ### Folds -/

theorem isInert_of_isEscaped (h : isEscaped c = true) : IsInert c := by
  rcases isEscaped_iff.mp h with rfl | rfl
  · exact isInert_backslash
  · exact isInert_slash

/-- **The written form of a fold is the fold of the written form.** -/
theorem fold_written (comparison : Comparison) (s : Text) :
    fold comparison (written s) = written (fold comparison s) := by
  refine fold_flatMap comparison (p := isEscaped) (fun d hd => ⟨isInert_of_isEscaped hd, ?_, ?_⟩)
    (fun d hd => escapeTagChar_of_not_isEscaped hd) s
  · rw [escapeTagChar_of_isEscaped hd]
    exact List.cons_ne_nil _ _
  · intro e he
    rw [escapeTagChar_of_isEscaped hd] at he
    rcases List.mem_cons.mp he with rfl | he
    · exact isInert_backslash
    · exact List.mem_singleton.mp he ▸ isInert_of_isEscaped hd

/-- **A tag may be folded before or after it is written in quotes.** -/
theorem fold_quotedTag (comparison : Comparison) (name : Text) :
    fold comparison (quotedTag name) = quotedTag (fold comparison name) := by
  rw [quotedTag_eq, quotedTag_eq, fold_cons isInert_quote, fold_append_cons isInert_quote, fold_nil,
    fold_written]

/-- **What a search for a quoted tag finds**: two quotes with a text between them that has the fold
of the written tag. -/
theorem occursIn_quotedTag_iff (comparison : Comparison) (name s : Text) :
    occursIn (fold comparison (quotedTag name)) (fold comparison s) = true ↔
      ∃ a m b, s = a ++ '"' :: (m ++ '"' :: b) ∧
        fold comparison m = written (fold comparison name) := by
  rw [quotedTag_eq, occursIn_fold_iff isInert_quote, fold_written]

end NoteSieve.Text
