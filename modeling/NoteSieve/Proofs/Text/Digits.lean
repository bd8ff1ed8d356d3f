import Mathlib.Data.List.Basic
import NoteSieve.Text.Digits

/-!
# Digits that are written are read back

A number is written with the library's `Nat.toDigits`, in decimal digits where it stands for itself
and in hexadecimal ones where it stands for a character. Up to base sixteen the digits spell the
number that was written (`NoteSieve.Text.digits?_toDigits`).
-/

namespace NoteSieve.Text

variable {base n : Nat} {c : Char}

/-! ### Any base -/

theorem exists_digit_of_mem_toDigits (hbase : 1 < base) (h : c ∈ Nat.toDigits base n) :
    ∃ d < base, c = Nat.digitChar d := by
  induction n using Nat.strongRecOn with
  | _ n ih =>
    rcases Nat.lt_or_ge n base with hn | hn
    · rw [Nat.toDigits_of_lt_base hn, List.mem_singleton] at h
      exact ⟨n, hn, h⟩
    · rw [Nat.toDigits_of_base_le hbase hn, List.mem_append, List.mem_singleton] at h
      rcases h with h | h
      · exact ih _ (Nat.div_lt_self (by omega) hbase) h
      · exact ⟨n % base, Nat.mod_lt n (by omega), h⟩

theorem digitsFrom?_append (base value : Nat) (s t : Text) :
    digitsFrom? base value (s ++ t)
      = (digitsFrom? base value s).bind fun value => digitsFrom? base value t := by
  induction s generalizing value with
  | nil => rfl
  | cons c s ih =>
    rw [List.cons_append, digitsFrom?, digitsFrom?]
    cases digitValue? c with
    | none => rfl
    | some d =>
      dsimp only
      split
      · exact ih _
      · rfl

theorem digitsFrom?_digitChar (hbase : base ≤ 16) (hn : n < base) (value : Nat) :
    digitsFrom? base value [Nat.digitChar n] = some (value * base + n) := by
  have hdigit : ∀ n < 16, digitValue? (Nat.digitChar n) = some n := by decide
  rw [digitsFrom?, hdigit n (by omega)]
  exact if_pos hn

/-- **Digits spell their number.** -/
theorem digits?_toDigits (hbase : 1 < base) (hbound : base ≤ 16) (n : Nat) :
    digits? base (Nat.toDigits base n) = some n := by
  rw [digits?, if_neg (by simp)]
  induction n using Nat.strongRecOn with
  | _ n ih =>
    rcases Nat.lt_or_ge n base with hn | hn
    · rw [Nat.toDigits_of_lt_base hn, digitsFrom?_digitChar hbound hn, Nat.zero_mul, Nat.zero_add]
    · have ih := ih _ (Nat.div_lt_self (by omega) hbase)
      rw [Nat.toDigits_of_base_le hbase hn, digitsFrom?_append, ih, Option.bind_some,
        digitsFrom?_digitChar hbound (Nat.mod_lt n (by omega)), Nat.mul_comm, Nat.div_add_mod]

/-! ### Decimal digits -/

theorem isDigit_of_mem_ofNat (h : c ∈ ofNat n) : isDigit c = true := by
  have hdigit := Nat.isDigit_of_mem_toDigits (by decide) (by decide) h
  simpa [isDigit, Char.isDigit, Char.le_def, ge_iff_le] using hdigit

theorem not_mem_ofNat (h : isDigit c = false) : c ∉ ofNat n := fun hc => by
  simp [isDigit_of_mem_ofNat hc] at h

theorem digits?_ofNat (n : Nat) : digits? 10 (ofNat n) = some n :=
  digits?_toDigits (by decide) (by decide) n

/-- Only zero begins with a zero. -/
theorem head?_ofNat (h : n ≠ 0) : (ofNat n).head? ≠ some '0' := by
  have hdigit : ∀ n < 10, n ≠ 0 → Nat.digitChar n ≠ '0' := by decide
  induction n using Nat.strongRecOn with
  | _ n ih =>
    rcases Nat.lt_or_ge n 10 with hn | hn
    · rw [ofNat, Nat.toDigits_of_lt_base hn]
      simpa using hdigit n hn h
    · have hlt : n / 10 < n := Nat.div_lt_self (by omega) (by decide)
      have ih := ih _ hlt (by omega)
      rw [ofNat] at ih ⊢
      rwa [Nat.toDigits_of_base_le (by decide) hn, List.head?_append_of_ne_nil]
      exact Nat.toDigits_ne_nil

end NoteSieve.Text
