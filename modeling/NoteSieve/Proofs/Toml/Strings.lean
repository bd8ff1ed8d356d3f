import Mathlib.Data.List.Basic
import NoteSieve.Toml.Strings

/-!
# Strings that are written are read back

The writer has four forms and chooses by the characters of the text. Whichever it is, the reader
gives back the text and what stands behind it (`NoteSieve.Toml.readString?_writeString`), as long as
no quote does: a quote behind a string could be one more of its closing quotes.

The two forms with escapes can hold any text and are shown to be read back for every text, whether
or not the writer chooses them. In the two forms between triple quotes the reader has to find the
end among up to five quotes in a row, so there the induction on the text goes by what the quotes at
its front are followed by: the end of the text, one more quote and the end, or anything else.

| form | read back if | theorem |
|---|---|---|
| between double quotes | always | `readBasic_writeBasic` |
| between single quotes | it fits | `readLiteral_append` |
| between triple double quotes | always | `readLongBasic_writeLongBasic` |
| between triple single quotes | it fits | `readLongLiteral_append` |
-/

namespace NoteSieve.Toml

variable {c : Char} {e s rest : Text} {fuel n : Nat}

/-! ### Escapes -/

/-- What follows the backslash of an escape for a character: it is read as the character, and the
backslash does not end a line. -/
structure IsEscape (e : Text) (c : Char) : Prop where
  /-- It is read as the character, whatever follows. -/
  readEscape_append : ∀ rest, readEscape (e ++ rest) = some (c, rest)
  /-- It does not begin with white space. -/
  afterLineEnd?_append : ∀ rest, afterLineEnd? (e ++ rest) = none

theorem isEscape_quote : IsEscape ['"'] '"' := ⟨fun _ => rfl, fun _ => rfl⟩

theorem isEscape_lineFeed : IsEscape ['n'] '\n' := ⟨fun _ => rfl, fun _ => rfl⟩

/-- The four digits of a control spell it. -/
theorem codePoint?_control (h : isControl c = true) :
    codePoint? ['0', '0', Char.toUpper (Nat.digitChar (c.toNat / 16)),
      Char.toUpper (Nat.digitChar (c.toNat % 16))] = some c := by
  have hall : ∀ n < 128, codePoint? ['0', '0', Char.toUpper (Nat.digitChar (n / 16)),
      Char.toUpper (Nat.digitChar (n % 16))] = some (Char.ofNat n) := by decide
  have hlt : c.toNat < 128 := by
    simp only [isControl, Bool.or_eq_true, Bool.and_eq_true, decide_eq_true_eq, beq_iff_eq] at h
    omega
  rw [hall c.toNat hlt, Char.ofNat_toNat]

/-- A control that has no letter of its own is written by its code point. -/
theorem isEscape_control (h : isControl c = true) :
    IsEscape ['u', '0', '0', Char.toUpper (Nat.digitChar (c.toNat / 16)),
      Char.toUpper (Nat.digitChar (c.toNat % 16))] c where
  readEscape_append rest := by
    change (codePoint? ['0', '0', Char.toUpper (Nat.digitChar (c.toNat / 16)),
      Char.toUpper (Nat.digitChar (c.toNat % 16))]).map (·, rest) = some (c, rest)
    rw [codePoint?_control h, Option.map_some]
  afterLineEnd?_append _ := rfl

/-- **A character is written as an escape, or as it is** where that is neither a backslash nor a
control. -/
theorem escapeChar_cases (c : Char) :
    (∃ e, escapeChar c = '\\' :: e ∧ IsEscape e c) ∨
      escapeChar c = [c] ∧ c ≠ '\\' ∧ isControl c = false := by
  rw [escapeChar]
  split_ifs with hb ht hf hr hbackslash hcontrol
  · exact Or.inl ⟨['b'], rfl, hb ▸ ⟨fun _ => rfl, fun _ => rfl⟩⟩
  · exact Or.inl ⟨['t'], rfl, ht ▸ ⟨fun _ => rfl, fun _ => rfl⟩⟩
  · exact Or.inl ⟨['f'], rfl, hf ▸ ⟨fun _ => rfl, fun _ => rfl⟩⟩
  · exact Or.inl ⟨['r'], rfl, hr ▸ ⟨fun _ => rfl, fun _ => rfl⟩⟩
  · subst hbackslash
    exact Or.inl ⟨['\\'], rfl, fun _ => rfl, fun _ => rfl⟩
  · exact Or.inl ⟨_, rfl, isEscape_control hcontrol⟩
  · exact Or.inr ⟨rfl, hbackslash, by simpa using hcontrol⟩

@[simp]
theorem consRead_some (c : Char) (s rest : Text) :
    consRead c (some (s, rest)) = some (c :: s, rest) := rfl

/-! ### Between double quotes -/

theorem readBasic_escape (h : IsEscape e c) (fuel : Nat) (rest : Text) :
    readBasic (fuel + 1) ('\\' :: (e ++ rest)) = consRead c (readBasic fuel rest) := by
  rw [readBasic, h.readEscape_append]

theorem readBasic_plain (hquote : c ≠ '"') (hbackslash : c ≠ '\\') (hcontrol : isControl c = false)
    (hbreak : c ≠ '\n') (fuel : Nat) (rest : Text) :
    readBasic (fuel + 1) (c :: rest) = consRead c (readBasic fuel rest) := by
  rw [readBasic]
  · simp [hcontrol, hbreak]
  · exact hquote
  · exact hbackslash

/-- A character between double quotes. -/
theorem writeBasic_cons (c : Char) (s : Text) :
    (∃ e, writeBasic (c :: s) = '\\' :: (e ++ writeBasic s) ∧ IsEscape e c) ∨
      writeBasic (c :: s) = c :: writeBasic s ∧ c ≠ '"' ∧ c ≠ '\\' ∧ isControl c = false ∧
        c ≠ '\n' := by
  rw [writeBasic, List.flatMap_cons, ← writeBasic]
  split_ifs with hquote hbreak
  · exact Or.inl ⟨['"'], rfl, hquote ▸ isEscape_quote⟩
  · exact Or.inl ⟨['n'], rfl, hbreak ▸ isEscape_lineFeed⟩
  · rcases escapeChar_cases c with ⟨e, h, hescape⟩ | ⟨h, hbackslash, hcontrol⟩
    · exact Or.inl ⟨e, by rw [h, List.cons_append], hescape⟩
    · exact Or.inr ⟨by rw [h, List.singleton_append], hquote, hbackslash, hcontrol, hbreak⟩

theorem length_le_length_writeBasic (s : Text) : s.length ≤ (writeBasic s).length := by
  induction s with
  | nil => simp
  | cons c s ih =>
    rcases writeBasic_cons c s with ⟨e, h, -⟩ | ⟨h, -⟩
    · simp only [h, List.length_cons, List.length_append]
      omega
    · simp only [h, List.length_cons]
      omega

theorem readBasic_writeBasic (h : s.length < fuel) (rest : Text) :
    readBasic fuel (writeBasic s ++ '"' :: rest) = some (s, rest) := by
  induction s generalizing fuel with
  | nil =>
    obtain ⟨fuel, rfl⟩ := Nat.exists_eq_add_of_lt h
    rfl
  | cons c s ih =>
    obtain ⟨fuel, rfl⟩ := Nat.exists_eq_succ_of_ne_zero (Nat.ne_zero_of_lt h)
    have ih := ih (Nat.lt_of_succ_lt_succ h)
    rcases writeBasic_cons c s with ⟨e, hw, hescape⟩ | ⟨hw, hquote, hbackslash, hcontrol, hbreak⟩
    · rw [hw, List.cons_append, List.append_assoc, readBasic_escape hescape, ih, consRead_some]
    · rw [hw, List.cons_append, readBasic_plain hquote hbackslash hcontrol hbreak, ih,
        consRead_some]

/-! ### Between single quotes -/

theorem readLiteral_append (h : Form.fits s .literal = true) (rest : Text) :
    readLiteral (s ++ '\'' :: rest) = some (s, rest) := by
  simp only [Form.fits, Bool.not_eq_true', List.any_eq_false, Bool.or_eq_true, not_or] at h
  induction s with
  | nil => rfl
  | cons c s ih =>
    obtain ⟨⟨⟨hcontrol, hquote⟩, hbreak⟩, hs⟩ := List.forall_mem_cons.mp h
    rw [List.cons_append, readLiteral, ih hs]
    · simp_all
    · simpa using hquote

/-! ### Between triple double quotes -/

theorem readLongBasic_escape (h : IsEscape e c) (fuel : Nat) (rest : Text) :
    readLongBasic (fuel + 1) ('\\' :: (e ++ rest)) = consRead c (readLongBasic fuel rest) := by
  rw [readLongBasic, h.afterLineEnd?_append, h.readEscape_append]

/-- A character is read as it is, unless it is the first of three quotes. -/
theorem readLongBasic_plain (hbackslash : c ≠ '\\') (hcontrol : isControl c = false)
    (hquotes : c = '"' → ∀ t, rest ≠ '"' :: '"' :: t) (fuel : Nat) :
    readLongBasic (fuel + 1) (c :: rest) = consRead c (readLongBasic fuel rest) := by
  rw [readLongBasic]
  · simp [hcontrol]
  · exact fun t hc => hquotes hc _
  · exact fun t hc => hquotes hc _
  · exact fun t hc => hquotes hc t
  · exact hbackslash
  · rintro t rfl
    exact absurd hcontrol (by decide)

/-- A character between triple double quotes: an escape, a quote that is not the third in a row, or
any other character that needs no escape. -/
theorem writeLongBasic_cons (n : Nat) (c : Char) (s : Text) :
    (∃ e, writeLongBasic n (c :: s) = '\\' :: (e ++ writeLongBasic 0 s) ∧ IsEscape e c) ∨
      (c = '"' ∧ n < 2 ∧ writeLongBasic n (c :: s) = '"' :: writeLongBasic (n + 1) s) ∨
      writeLongBasic n (c :: s) = c :: writeLongBasic 0 s ∧ c ≠ '"' ∧ c ≠ '\\' ∧
        isControl c = false := by
  rw [writeLongBasic]
  split_ifs with hquote hn
  · exact Or.inl ⟨['"'], rfl, hquote ▸ isEscape_quote⟩
  · exact Or.inr (Or.inl ⟨hquote, by omega, rfl⟩)
  · rcases escapeChar_cases c with ⟨e, h, hescape⟩ | ⟨h, hbackslash, hcontrol⟩
    · exact Or.inl ⟨e, by rw [h, List.cons_append], hescape⟩
    · exact Or.inr (Or.inr ⟨by rw [h, List.singleton_append], hquote, hbackslash, hcontrol⟩)

theorem length_le_length_writeLongBasic (n : Nat) (s : Text) :
    s.length ≤ (writeLongBasic n s).length := by
  induction s generalizing n with
  | nil => simp
  | cons c s ih =>
    rcases writeLongBasic_cons n c s with ⟨e, h, -⟩ | ⟨-, -, h⟩ | ⟨h, -⟩ <;>
      simp only [h, List.length_cons, List.length_append] <;>
      have := ih 0 <;> have := ih (n + 1) <;> omega

/-- A quote at the front of what is written and the closing quotes is one of the text, or there is
no text left. -/
theorem eq_nil_or_of_writeLongBasic_append {closing t : Text}
    (h : writeLongBasic n s ++ closing = '"' :: t) :
    s = [] ∨ ∃ s', s = '"' :: s' ∧ n < 2 ∧ t = writeLongBasic (n + 1) s' ++ closing := by
  cases s with
  | nil => exact Or.inl rfl
  | cons c s =>
    refine Or.inr ?_
    rcases writeLongBasic_cons n c s with ⟨e, hw, -⟩ | ⟨rfl, hn, hw⟩ | ⟨hw, hquote, -⟩
    · rw [hw, List.cons_append] at h
      exact absurd (List.cons.inj h).1 (by decide)
    · rw [hw, List.cons_append] at h
      exact ⟨s, rfl, hn, (List.cons.inj h).2.symm⟩
    · rw [hw, List.cons_append] at h
      exact absurd (List.cons.inj h).1 hquote

/-- Up to two quotes in front of the closing ones belong to the text. -/
theorem readLongBasic_close (hrest : ∀ t, rest ≠ '"' :: t) {k : Nat} (hk : k ≤ 2) (fuel : Nat) :
    readLongBasic (fuel + 1) (List.replicate k '"' ++ '"' :: '"' :: '"' :: rest)
      = some (List.replicate k '"', rest) := by
  obtain rfl | rfl | rfl : k = 0 ∨ k = 1 ∨ k = 2 := by omega
  · change readLongBasic (fuel + 1) ('"' :: '"' :: '"' :: rest) = _
    rw [readLongBasic]
    · rfl
    · exact fun t => hrest _
    · exact hrest
  · change readLongBasic (fuel + 1) ('"' :: '"' :: '"' :: '"' :: rest) = _
    rw [readLongBasic]
    · rfl
    · exact hrest
  · rfl

theorem readLongBasic_writeLongBasic (hrest : ∀ t, rest ≠ '"' :: t) (h : s.length < fuel)
    (n : Nat) :
    readLongBasic fuel (writeLongBasic n s ++ '"' :: '"' :: '"' :: rest) = some (s, rest) := by
  induction s generalizing fuel n with
  | nil =>
    obtain ⟨fuel, rfl⟩ := Nat.exists_eq_succ_of_ne_zero (Nat.ne_zero_of_lt h)
    exact readLongBasic_close hrest (Nat.zero_le 2) fuel
  | cons c s ih =>
    obtain ⟨fuel, rfl⟩ := Nat.exists_eq_succ_of_ne_zero (Nat.ne_zero_of_lt h)
    have ih := fun n => ih (Nat.lt_of_succ_lt_succ h) n
    rcases writeLongBasic_cons n c s with
      ⟨e, hw, hescape⟩ | ⟨rfl, hn, hw⟩ | ⟨hw, hquote, hbackslash, hcontrol⟩
    · rw [hw, List.cons_append, List.append_assoc, readLongBasic_escape hescape, ih, consRead_some]
    · -- A quote is the first of three in a row only if the text ends here or behind one more.
      rw [hw, List.cons_append]
      by_cases hquotes : ∃ t, writeLongBasic (n + 1) s ++ '"' :: '"' :: '"' :: rest
          = '"' :: '"' :: t
      · obtain ⟨t, ht⟩ := hquotes
        rcases eq_nil_or_of_writeLongBasic_append ht with rfl | ⟨s', rfl, hn', ht'⟩
        · exact readLongBasic_close hrest (by decide : 1 ≤ 2) fuel
        · rcases eq_nil_or_of_writeLongBasic_append ht'.symm with rfl | ⟨s'', -, hn'', -⟩
          · rw [writeLongBasic, if_pos rfl, if_neg (by omega)]
            exact readLongBasic_close hrest (Nat.le_refl 2) fuel
          · omega
      · rw [readLongBasic_plain (by decide) (by decide)
          (fun _ t ht => hquotes ⟨t, ht⟩), ih, consRead_some]
    · rw [hw, List.cons_append, readLongBasic_plain hbackslash hcontrol
        (fun hc => absurd hc hquote), ih, consRead_some]

/-! ### Between triple single quotes -/

theorem readLongLiteral_plain (hcontrol : isControl c = false)
    (hquotes : c = '\'' → ∀ t, rest ≠ '\'' :: '\'' :: t) :
    readLongLiteral (c :: rest) = consRead c (readLongLiteral rest) := by
  rw [readLongLiteral]
  · simp [hcontrol]
  · exact fun t hc => hquotes hc _
  · exact fun t hc => hquotes hc _
  · exact fun t hc => hquotes hc t
  · rintro t rfl
    exact absurd hcontrol (by decide)

/-- Up to two quotes in front of the closing ones belong to the text. -/
theorem readLongLiteral_close (hrest : ∀ t, rest ≠ '\'' :: t) {k : Nat} (hk : k ≤ 2) :
    readLongLiteral (List.replicate k '\'' ++ '\'' :: '\'' :: '\'' :: rest)
      = some (List.replicate k '\'', rest) := by
  obtain rfl | rfl | rfl : k = 0 ∨ k = 1 ∨ k = 2 := by omega
  · change readLongLiteral ('\'' :: '\'' :: '\'' :: rest) = _
    rw [readLongLiteral]
    · rfl
    · exact fun t => hrest _
    · exact hrest
  · change readLongLiteral ('\'' :: '\'' :: '\'' :: '\'' :: rest) = _
    rw [readLongLiteral]
    · rfl
    · exact hrest
  · rfl

theorem hasRun_cons_of_ne (h : c ≠ '\'') (n : Nat) (s : Text) :
    hasRun '\'' n (c :: s) = hasRun '\'' 0 s := by
  rw [hasRun, if_neg h]

theorem hasRun_cons_self (h : hasRun c n (c :: s) = false) :
    n < 2 ∧ hasRun c (n + 1) s = false := by
  rw [hasRun, if_pos rfl] at h
  split at h
  · exact Bool.noConfusion h
  · exact ⟨by omega, h⟩

/-- A text without three quotes in a row is read up to the closing ones. -/
theorem readLongLiteral_append (hrest : ∀ t, rest ≠ '\'' :: t)
    (hcontrol : ∀ c ∈ s, isControl c = false) (hrun : hasRun '\'' n s = false) :
    readLongLiteral (s ++ '\'' :: '\'' :: '\'' :: rest) = some (s, rest) := by
  induction s generalizing n with
  | nil => exact readLongLiteral_close hrest (Nat.zero_le 2)
  | cons c s ih =>
    obtain ⟨hc, hs⟩ := List.forall_mem_cons.mp hcontrol
    by_cases hquote : c = '\''
    · subst hquote
      obtain ⟨hn, hrun⟩ := hasRun_cons_self hrun
      by_cases hquotes : ∃ t, s ++ '\'' :: '\'' :: '\'' :: rest = '\'' :: '\'' :: t
      · obtain ⟨t, ht⟩ := hquotes
        -- The text ends here or behind one more quote, since three in a row do not fit.
        rcases s with - | ⟨d, - | ⟨d', s⟩⟩
        · exact readLongLiteral_close hrest (by decide : 1 ≤ 2)
        · obtain rfl := (List.cons.inj ht).1
          exact readLongLiteral_close hrest (Nat.le_refl 2)
        · obtain ⟨rfl, htail⟩ := List.cons.inj ht
          obtain rfl : d' = '\'' := (List.cons.inj htail).1
          obtain ⟨hn, hrun⟩ := hasRun_cons_self hrun
          have := (hasRun_cons_self hrun).1
          omega
      · rw [List.cons_append, readLongLiteral_plain hc (fun _ t ht => hquotes ⟨t, ht⟩), ih hs hrun,
          consRead_some]
    · rw [hasRun_cons_of_ne hquote] at hrun
      rw [List.cons_append, readLongLiteral_plain hc (fun h => absurd h hquote), ih hs hrun,
        consRead_some]

/-! ### The choice of a form -/

/-- The form that is chosen fits, or it is one that can hold any text. -/
theorem Form.fits_of (s : Text) :
    (Form.of s).fits s = true ∨ Form.of s = .basic ∨ Form.of s = .longBasic := by
  rw [Form.of]
  cases h : [Form.basic, .literal, .longBasic, .longLiteral].find? (Form.fits s) with
  | some form => exact Or.inl (List.find?_some h)
  | none =>
    dsimp only
    split
    · exact Or.inr (Or.inr rfl)
    · exact Or.inr (Or.inl rfl)

theorem skipBreak_of_not_startsBreak (h : startsBreak s = false) : skipBreak s = s := by
  fun_cases skipBreak s <;> simp_all [startsBreak]

/-- **The break after the opening quotes** is the only thing that is skipped, if the text itself has
no break to begin with. -/
theorem skipBreak_openingBreak {body : Text} (h : '\n' ∉ s → startsBreak body = false) :
    skipBreak (openingBreak s ++ body) = body := by
  rw [openingBreak]
  split
  · rfl
  · next hn => exact skipBreak_of_not_startsBreak (h (by simpa using hn))

theorem startsBreak_cons (hn : c ≠ '\n') (hr : c ≠ '\r') (s : Text) :
    startsBreak (c :: s) = false := by
  rw [startsBreak]
  · exact fun t h => hn (List.cons.inj h).1
  · exact fun t h => hr (List.cons.inj h).1

theorem ne_return_of_not_control (h : isControl c = false) : c ≠ '\r' := by
  rintro rfl
  exact absurd h (by decide)

/-- A text between triple double quotes begins with a break only if it holds one. -/
theorem startsBreak_writeLongBasic (h : '\n' ∉ s) (closing : Text) :
    startsBreak (writeLongBasic 0 s ++ '"' :: closing) = false := by
  cases s with
  | nil => rfl
  | cons c s =>
    rcases writeLongBasic_cons 0 c s with ⟨e, hw, -⟩ | ⟨rfl, -, hw⟩ | ⟨hw, -, -, hcontrol⟩
    · rw [hw, List.cons_append, startsBreak_cons (by decide) (by decide)]
    · rw [hw, List.cons_append, startsBreak_cons (by decide) (by decide)]
    · have hn : c ≠ '\n' := fun hc => h (hc ▸ List.mem_cons_self)
      rw [hw, List.cons_append, startsBreak_cons hn (ne_return_of_not_control hcontrol)]

theorem startsBreak_literal (h : '\n' ∉ s) (hcontrol : ∀ c ∈ s, isControl c = false)
    (closing : Text) : startsBreak (s ++ '\'' :: closing) = false := by
  cases s with
  | nil => rfl
  | cons c s =>
    have hn : c ≠ '\n' := fun hc => h (hc ▸ List.mem_cons_self)
    exact startsBreak_cons hn (ne_return_of_not_control (hcontrol c List.mem_cons_self)) _

/-! ### Reading what is written -/

theorem readString?_basic (hrest : ∀ t, rest ≠ '"' :: t) (s : Text) :
    readString? (Form.basic.write s ++ rest) = some (s, rest) := by
  have hwrite : Form.basic.write s ++ rest = '"' :: (writeBasic s ++ '"' :: rest) := by
    simp [Form.write]
  have hshort : ∀ t, writeBasic s ++ '"' :: rest ≠ '"' :: '"' :: t := by
    intro t h
    cases s with
    | nil => exact hrest t (List.cons.inj h).2
    | cons c s =>
      rcases writeBasic_cons c s with ⟨e, hw, -⟩ | ⟨hw, hquote, -⟩
      · rw [hw] at h
        exact absurd (List.cons.inj h).1 (by decide)
      · rw [hw] at h
        exact hquote (List.cons.inj h).1
  have hlength := length_le_length_writeBasic s
  rw [hwrite, readString?, readShortString?, readBasic_writeBasic]
  · simp only [List.length_append]
    omega
  · exact fun t h => hshort t (List.cons.inj h).2
  · exact fun t h => absurd (List.cons.inj h).1 (by decide)

theorem readString?_literal (hrest : ∀ t, rest ≠ '\'' :: t) (h : Form.fits s .literal = true) :
    readString? (Form.literal.write s ++ rest) = some (s, rest) := by
  have hwrite : Form.literal.write s ++ rest = '\'' :: (s ++ '\'' :: rest) := by
    simp [Form.write]
  have hshort : ∀ t, s ++ '\'' :: rest ≠ '\'' :: '\'' :: t := by
    intro t ht
    cases s with
    | nil => exact hrest t (List.cons.inj ht).2
    | cons c s =>
      obtain rfl : c = '\'' := (List.cons.inj ht).1
      exact absurd h (by simp [Form.fits])
  rw [hwrite, readString?, readShortString?, readLiteral_append h]
  · exact fun t h => absurd (List.cons.inj h).1 (by decide)
  · exact fun t h => hshort t (List.cons.inj h).2

theorem readString?_longBasic (hrest : ∀ t, rest ≠ '"' :: t) (s : Text) :
    readString? (Form.longBasic.write s ++ rest) = some (s, rest) := by
  have hwrite : Form.longBasic.write s ++ rest = '"' :: '"' :: '"' ::
      (openingBreak s ++ (writeLongBasic 0 s ++ '"' :: '"' :: '"' :: rest)) := by
    simp [Form.write]
  have hlength := length_le_length_writeLongBasic 0 s
  rw [hwrite, readString?, skipBreak_openingBreak fun hn => startsBreak_writeLongBasic hn _,
    readLongBasic_writeLongBasic hrest]
  simp only [List.length_append]
  omega

theorem readString?_longLiteral (hrest : ∀ t, rest ≠ '\'' :: t)
    (h : Form.fits s .longLiteral = true) :
    readString? (Form.longLiteral.write s ++ rest) = some (s, rest) := by
  have hwrite : Form.longLiteral.write s ++ rest
      = '\'' :: '\'' :: '\'' :: (openingBreak s ++ (s ++ '\'' :: '\'' :: '\'' :: rest)) := by
    simp [Form.write]
  obtain ⟨hcontrol, hrun⟩ : (∀ c ∈ s, isControl c = false) ∧ hasRun '\'' 0 s = false := by
    simpa [Form.fits] using h
  rw [hwrite, readString?, skipBreak_openingBreak fun hn => startsBreak_literal hn hcontrol _,
    readLongLiteral_append hrest hcontrol hrun]

/-- **A written string is read back**, whatever the text and whatever stands behind it, if that is
no quote. -/
theorem readString?_writeString (hdouble : ∀ t, rest ≠ '"' :: t) (hsingle : ∀ t, rest ≠ '\'' :: t)
    (s : Text) : readString? (writeString s ++ rest) = some (s, rest) := by
  rw [writeString]
  have hfits := Form.fits_of s
  cases hform : Form.of s with
  | basic => exact readString?_basic hdouble s
  | longBasic => exact readString?_longBasic hdouble s
  | literal => exact readString?_literal hsingle (by simpa [hform] using hfits)
  | longLiteral => exact readString?_longLiteral hsingle (by simpa [hform] using hfits)

end NoteSieve.Toml
