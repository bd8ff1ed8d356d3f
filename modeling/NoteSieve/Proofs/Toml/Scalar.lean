import NoteSieve.Proofs.Text.Digits
import NoteSieve.Proofs.Text.Words
import NoteSieve.Toml.Scalar

/-!
# Numbers and truth values that are written are read back

A number is written in decimal digits, and nothing else that a word can be is made of digits alone:
no truth value, no date and no time. So the reader takes it for an integer, and as its first digit
is no zero, or the only one, it is one (`NoteSieve.Toml.readWord_ofNat`), as long as it has 64 bits.
-/

namespace NoteSieve

namespace Toml

open Text

variable {n : Nat} {s rest : Text}

/-! ### Words of digits -/

theorem ne_of_isDigit {c d : Char} (hc : isDigit c = true) (hd : isDigit d = false) : c ≠ d := by
  rintro rfl
  rw [hc] at hd
  exact Bool.noConfusion hd

theorem fragments_of_digits {d : Char} (hs : ∀ c ∈ s, isDigit c = true) (hd : isDigit d = false) :
    fragments (· == d) s = [s] :=
  fragments_eq_singleton fun c hc => by simpa using ne_of_isDigit (hs c hc) hd

/-- Digits are no moment. -/
theorem isMoment_of_digits (hs : ∀ c ∈ s, isDigit c = true) : isMoment s = false := by
  have htime : isTime s = false := by
    rw [isTime, fragments_of_digits hs (by decide)]
  have hdate : isDate (s.take 10) = false := by
    rw [isDate, fragments_of_digits (fun c hc => hs c (List.mem_of_mem_take hc)) (by decide)]
  rw [isMoment, htime, hdate]
  rfl

theorem wholeDigits?_ofNat (n : Nat) : wholeDigits? (ofNat n) = some (ofNat n) := by
  have hdigits : ∀ c ∈ ofNat n, isDigit c = true := fun c hc => isDigit_of_mem_ofNat hc
  have hne : ofNat n ≠ [] := Nat.toDigits_ne_nil
  have hdecimal : decimalDigits? (ofNat n) = some (ofNat n) := by
    rw [decimalDigits?, ungroup?, fragments_of_digits hdigits (by decide)]
    simpa [hne] using hdigits
  rw [wholeDigits?, hdecimal]
  refine if_pos ?_
  rcases Nat.eq_zero_or_pos n with rfl | hn
  · exact Or.inl rfl
  · exact Or.inr (head?_ofNat (Nat.ne_of_gt hn))

theorem splitSign_of_digits (hs : ∀ c ∈ s, isDigit c = true) : splitSign s = (false, s) := by
  cases s with
  | nil => rfl
  | cons c s =>
    have hc := hs c List.mem_cons_self
    rw [splitSign]
    · exact fun t h => ne_of_isDigit hc (by decide) (List.cons.inj h).1
    · exact fun t h => ne_of_isDigit hc (by decide) (List.cons.inj h).1

theorem integerInRange?_natCast (hn : n < integerBound) :
    integerInRange? (n : Int) = some (.integer n) := by
  rw [integerInRange?]
  refine if_pos ⟨?_, Int.ofNat_lt.mpr hn⟩
  exact Int.le_trans (Int.neg_nonpos_of_nonneg (Int.natCast_nonneg _)) (Int.natCast_nonneg n)

/-- **Decimal digits are an integer.** -/
theorem integer?_ofNat (hn : n < integerBound) : integer? (ofNat n) = some (.integer n) := by
  have hdigits : ∀ c ∈ ofNat n, isDigit c = true := fun c hc => isDigit_of_mem_ofNat hc
  -- The second character of an integer in another base is a letter.
  have hbase : ∀ {d t}, isDigit d = false → ofNat n = '0' :: d :: t → False := fun hd h => by
    rw [hdigits _ (by simp [h])] at hd
    exact Bool.noConfusion hd
  rw [integer?]
  · rw [splitSign_of_digits hdigits]
    dsimp only
    rw [wholeDigits?_ofNat, Option.bind_eq_bind, Option.bind_some, digits?_ofNat,
      Option.bind_eq_bind, Option.bind_some, if_neg Bool.false_ne_true]
    exact integerInRange?_natCast hn
  · exact fun t => hbase (by decide)
  · exact fun t => hbase (by decide)
  · exact fun t => hbase (by decide)

/-! ### Words at the end of a line -/

theorem word?_ofNat (hn : n < integerBound) : word? (ofNat n) = some (.integer n) := by
  have hdigits : ∀ c ∈ ofNat n, isDigit c = true := fun c hc => isDigit_of_mem_ofNat hc
  have htrue : ofNat n ≠ "true".toList := fun h => absurd (hdigits 't' (by simp [h])) (by decide)
  have hfalse : ofNat n ≠ "false".toList := fun h => absurd (hdigits 'f' (by simp [h])) (by decide)
  rw [word?, if_neg htrue, if_neg hfalse, isMoment_of_digits hdigits, integer?_ofNat hn]
  rfl

theorem word?_ofBool (b : Bool) : word? (ofBool b) = some (.boolean b) := by
  cases b <;> rfl

/-- A word reaches up to the end of its line. -/
theorem readWord_append {w : Text} (hw : ∀ c ∈ w, isWordChar c = true) (rest : Text) :
    readWord (w ++ '\n' :: rest) = (word? w).map (·, '\n' :: rest) := by
  have hstop : isWordChar '\n' = false := by decide
  rw [readWord, List.takeWhile_append_of_pos hw, List.dropWhile_append_of_pos hw,
    List.takeWhile_cons_of_neg (by simp [hstop]), List.dropWhile_cons_of_neg (by simp [hstop]),
    List.append_nil]
  rfl

theorem isWordChar_of_isDigit {c : Char} (h : isDigit c = true) : isWordChar c = true := by
  have hdigit : c.isDigit = true := by
    simpa [isDigit, Char.isDigit, Char.le_def, ge_iff_le] using h
  simp [isWordChar, Char.isAlphanum, hdigit]

/-- **A number is read back** at the end of a line. -/
theorem readWord_ofNat (hn : n < integerBound) (rest : Text) :
    readWord (ofNat n ++ '\n' :: rest) = some (.integer n, '\n' :: rest) := by
  rw [readWord_append fun c hc => isWordChar_of_isDigit (isDigit_of_mem_ofNat hc), word?_ofNat hn,
    Option.map_some]

theorem isWordChar_of_mem_ofBool (b : Bool) : ∀ c ∈ ofBool b, isWordChar c = true := by
  refine List.all_eq_true.mp ?_
  cases b <;> decide

/-- **A truth value is read back** at the end of a line. -/
theorem readWord_ofBool (b : Bool) (rest : Text) :
    readWord (ofBool b ++ '\n' :: rest) = some (.boolean b, '\n' :: rest) := by
  rw [readWord_append (isWordChar_of_mem_ofBool b), word?_ofBool, Option.map_some]

end Toml

end NoteSieve
