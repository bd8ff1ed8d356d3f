import NoteSieve.Proofs.Json.Spelling

/-!
# The spellings of a number

A number keeps its spelling, so there is nothing to say of its value: the grammar is a matter of the
four parts of the spelling (`NoteSieve.Json.IsNumber`). The reader takes the longest front of a text
that it can go on with. What it takes is a number (`NoteSieve.Json.isNumber_of_readNumber`), and a
number is taken as a whole as long as what follows does not go on with it, which nothing does that
may follow a value (`NoteSieve.Json.Ends`, `NoteSieve.Json.IsNumber.readNumber_append`).
-/

namespace NoteSieve.Json

open Text

variable {s t rest digits sign whole places exponent : Text}

/-! ### The parts of a number -/

/-- One digit or more. -/
def IsDigits (s : Text) : Prop := s ≠ [] ∧ ∀ c ∈ s, isDigit c = true

/-- The sign of a number: a minus or nothing. -/
inductive IsSign : Text → Prop
  | none : IsSign []
  | minus : IsSign ['-']

/-- The whole part of a number, which begins with a zero only if it is one. -/
inductive IsWhole : Text → Prop
  | zero : IsWhole ['0']
  | digits {s : Text} : IsDigits s → s.head? ≠ some '0' → IsWhole s

/-- The decimal places of a number, or nothing. -/
inductive IsPlaces : Text → Prop
  | none : IsPlaces []
  | point {s : Text} : IsDigits s → IsPlaces ('.' :: s)

/-- The exponent of a number, with or without a sign, or nothing. -/
inductive IsExponent : Text → Prop
  | none : IsExponent []
  | plain {e : Char} {s : Text} : e = 'e' ∨ e = 'E' → IsDigits s → IsExponent (e :: s)
  | signed {e sign : Char} {s : Text} : e = 'e' ∨ e = 'E' → sign = '+' ∨ sign = '-' →
      IsDigits s → IsExponent (e :: sign :: s)

/-- **The spelling of a number.** -/
inductive IsNumber : Text → Prop
  | mk {sign whole places exponent : Text} : IsSign sign → IsWhole whole → IsPlaces places →
      IsExponent exponent → IsNumber (sign ++ whole ++ places ++ exponent)

/-! ### What is read is a number -/

theorem isDigits_of_readDigits (h : readDigits s = some (digits, rest)) :
    s = digits ++ rest ∧ IsDigits digits := by
  rw [readDigits] at h
  split at h
  · exact absurd h (by simp)
  · next hne =>
    obtain ⟨rfl, rfl⟩ := Prod.mk.inj (Option.some.inj h)
    exact ⟨List.takeWhile_append_dropWhile.symm, fun hnil => hne (by rw [hnil]; rfl),
      fun c hc => List.mem_takeWhile_imp hc⟩

theorem isSign_of_readSign (h : readSign s = (sign, rest)) : s = sign ++ rest ∧ IsSign sign := by
  unfold readSign at h
  split at h
  · obtain ⟨rfl, rfl⟩ := Prod.mk.inj h
    exact ⟨rfl, .minus⟩
  · obtain ⟨rfl, rfl⟩ := Prod.mk.inj h
    exact ⟨rfl, .none⟩

theorem isWhole_of_readWhole (h : readWhole s = some (whole, rest)) :
    s = whole ++ rest ∧ IsWhole whole := by
  unfold readWhole at h
  split at h
  · obtain ⟨rfl, rfl⟩ := Prod.mk.inj (Option.some.inj h)
    exact ⟨rfl, .zero⟩
  · next hzero =>
    obtain ⟨rfl, hdigits⟩ := isDigits_of_readDigits h
    refine ⟨rfl, .digits hdigits fun hhead => ?_⟩
    obtain ⟨r, rfl⟩ := List.head?_eq_some_iff.mp hhead
    exact hzero _ rfl

theorem isPlaces_of_readPlaces (h : readPlaces s = some (places, rest)) :
    s = places ++ rest ∧ IsPlaces places := by
  unfold readPlaces at h
  split at h
  · obtain ⟨⟨digits, rest'⟩, hread, hpair⟩ := Option.map_eq_some_iff.mp h
    obtain ⟨rfl, rfl⟩ := Prod.mk.inj hpair
    obtain ⟨rfl, hdigits⟩ := isDigits_of_readDigits hread
    exact ⟨rfl, .point hdigits⟩
  · obtain ⟨rfl, rfl⟩ := Prod.mk.inj (Option.some.inj h)
    exact ⟨rfl, .none⟩

theorem isExponent_of_readExponent (h : readExponent s = some (exponent, rest)) :
    s = exponent ++ rest ∧ IsExponent exponent := by
  unfold readExponent at h
  split at h
  · obtain ⟨rfl, rfl⟩ := Prod.mk.inj (Option.some.inj h)
    exact ⟨rfl, .none⟩
  split at h
  · next he =>
    split at h
    · exact absurd h (by simp)
    split at h
    · next hsign =>
      obtain ⟨⟨digits, rest'⟩, hread, hpair⟩ := Option.map_eq_some_iff.mp h
      obtain ⟨rfl, rfl⟩ := Prod.mk.inj hpair
      obtain ⟨rfl, hdigits⟩ := isDigits_of_readDigits hread
      exact ⟨rfl, .signed he hsign hdigits⟩
    · obtain ⟨⟨digits, rest'⟩, hread, hpair⟩ := Option.map_eq_some_iff.mp h
      obtain ⟨rfl, rfl⟩ := Prod.mk.inj hpair
      obtain ⟨hs, hdigits⟩ := isDigits_of_readDigits hread
      exact ⟨by rw [hs, List.cons_append], .plain he hdigits⟩
  · obtain ⟨rfl, rfl⟩ := Prod.mk.inj (Option.some.inj h)
    exact ⟨rfl, .none⟩

theorem isNumber_of_readNumber {spelling : Text} (h : readNumber s = some (spelling, rest)) :
    s = spelling ++ rest ∧ IsNumber spelling := by
  obtain ⟨sign, s₁, hsign⟩ : ∃ sign s₁, readSign s = (sign, s₁) := ⟨_, _, rfl⟩
  simp only [readNumber, hsign, Option.bind_eq_bind, Option.bind_eq_some_iff, Prod.exists] at h
  obtain ⟨whole, s₂, hwhole, places, s₃, hplaces, exponent, s₄, hexponent, hpair⟩ := h
  obtain ⟨rfl, rfl⟩ := Prod.mk.inj (Option.some.inj hpair)
  obtain ⟨rfl, ha⟩ := isSign_of_readSign hsign
  obtain ⟨rfl, hb⟩ := isWhole_of_readWhole hwhole
  obtain ⟨rfl, hc⟩ := isPlaces_of_readPlaces hplaces
  obtain ⟨rfl, hd⟩ := isExponent_of_readExponent hexponent
  exact ⟨by simp only [List.append_assoc], .mk ha hb hc hd⟩

/-! ### A number is read -/

/-- What may follow a value: nothing, white space, or a character that separates or closes. -/
def Ends (s : Text) : Prop :=
  ∀ c ∈ s.head?, isSpace c = true ∨ c = ',' ∨ c = ']' ∨ c = '\x7d'

theorem ends_cons {c : Char} (hc : isSpace c = true ∨ c = ',' ∨ c = ']' ∨ c = '\x7d') (s : Text) :
    Ends (c :: s) := by
  intro d hd
  obtain rfl := Option.some.inj hd
  exact hc

theorem Ends.behind (h : Ends t) (hs : IsWhite s) : Ends (s ++ t) := by
  cases s with
  | nil => exact h
  | cons c s => exact ends_cons (Or.inl (hs c List.mem_cons_self)) (s ++ t)

/-- A text begins with none of the characters that go on with the digits of a number. -/
def EndsDigits (s : Text) : Prop := ∀ c ∈ s.head?, isDigit c = false

/-- Nothing of a number is in what may follow it. -/
theorem Ends.number_ends (h : Ends rest) :
    EndsDigits rest ∧ readPlaces rest = some ([], rest) ∧ readExponent rest = some ([], rest) := by
  cases rest with
  | nil => exact ⟨fun _ hc => absurd hc (by simp), rfl, rfl⟩
  | cons c rest =>
    have hc : c ≠ '.' ∧ c ≠ 'e' ∧ c ≠ 'E' ∧ isDigit c = false := by
      rcases h c rfl with hspace | rfl | rfl | rfl
      · rcases isSpace_iff.mp hspace with rfl | rfl | rfl | rfl <;> decide
      all_goals decide
    refine ⟨fun d hd => Option.some.inj hd ▸ hc.2.2.2, ?_, ?_⟩
    · rw [readPlaces]
      exact fun _ hpoint => hc.1 (List.cons.inj hpoint).1
    · rw [readExponent.eq_def]
      exact if_neg (not_or.mpr ⟨hc.2.1, hc.2.2.1⟩)

theorem IsDigits.exists_cons (h : IsDigits digits) :
    ∃ c t, digits = c :: t ∧ isDigit c = true := by
  obtain ⟨c, t, rfl⟩ := List.exists_cons_of_ne_nil h.1
  exact ⟨c, t, rfl, h.2 c List.mem_cons_self⟩

theorem IsDigits.readDigits_append (h : IsDigits digits) (hrest : EndsDigits rest) :
    readDigits (digits ++ rest) = some (digits, rest) := by
  have hstop : rest.takeWhile isDigit = [] ∧ rest.dropWhile isDigit = rest := by
    cases rest with
    | nil => exact ⟨rfl, rfl⟩
    | cons c rest =>
      have hc : ¬isDigit c = true := by rw [hrest c rfl]; exact Bool.false_ne_true
      exact ⟨List.takeWhile_cons_of_neg hc, List.dropWhile_cons_of_neg hc⟩
  obtain ⟨c, t, hdigits, -⟩ := h.exists_cons
  rw [readDigits, List.takeWhile_append_of_pos h.2, List.dropWhile_append_of_pos h.2, hstop.1,
    hstop.2, List.append_nil, if_neg (by simp [hdigits])]

theorem IsWhole.exists_cons (h : IsWhole whole) : ∃ c t, whole = c :: t ∧ isDigit c = true := by
  cases h with
  | zero => exact ⟨'0', [], rfl, rfl⟩
  | digits hdigits => exact hdigits.exists_cons

theorem IsSign.readSign_append (h : IsSign sign) (hwhole : IsWhole whole) (t : Text) :
    readSign (sign ++ (whole ++ t)) = (sign, whole ++ t) := by
  cases h with
  | minus => rfl
  | none =>
    obtain ⟨c, u, rfl, hdigit⟩ := hwhole.exists_cons
    rw [List.nil_append, List.cons_append, readSign]
    intro _ hminus
    rw [(List.cons.inj hminus).1] at hdigit
    exact absurd hdigit (by decide)

theorem IsWhole.readWhole_append (h : IsWhole whole) (hrest : EndsDigits rest) :
    readWhole (whole ++ rest) = some (whole, rest) := by
  cases h with
  | zero => rfl
  | digits hdigits hzero =>
    obtain ⟨c, t, hwhole, -⟩ := hdigits.exists_cons
    have hne : c ≠ '0' := fun h0 => hzero (by rw [hwhole, h0]; rfl)
    rw [← hdigits.readDigits_append hrest, hwhole, List.cons_append, readWhole]
    exact fun _ h => hne (List.cons.inj h).1

theorem IsExponent.readExponent_append (h : IsExponent exponent) (hrest : Ends rest) :
    EndsDigits (exponent ++ rest) ∧ readPlaces (exponent ++ rest) = some ([], exponent ++ rest) ∧
      readExponent (exponent ++ rest) = some (exponent, rest) := by
  have hletter : ∀ {e : Char}, e = 'e' ∨ e = 'E' → ∀ s : Text,
      EndsDigits (e :: s) ∧ readPlaces (e :: s) = some ([], e :: s) := by
    rintro e (rfl | rfl) s
    all_goals exact ⟨fun d hd => Option.some.inj hd ▸ rfl, rfl⟩
  cases h with
  | none => exact hrest.number_ends
  | @plain e s he hdigits =>
    refine ⟨(hletter he _).1, (hletter he _).2, ?_⟩
    obtain ⟨c, t, rfl, hc⟩ := hdigits.exists_cons
    have hread := hdigits.readDigits_append hrest.number_ends.1
    have hsign : ¬(c = '+' ∨ c = '-') := by
      rintro (rfl | rfl) <;> exact absurd hc (by decide)
    simp only [List.cons_append] at hread ⊢
    rw [readExponent, if_pos he]
    simp only [if_neg hsign, hread, Option.map_some]
  | @signed e sign s he hsign hdigits =>
    refine ⟨(hletter he _).1, (hletter he _).2, ?_⟩
    have hread := hdigits.readDigits_append hrest.number_ends.1
    simp only [List.cons_append]
    rw [readExponent, if_pos he]
    simp only [if_pos hsign, hread, Option.map_some]

theorem IsPlaces.readPlaces_append (h : IsPlaces places) (hend : EndsDigits rest)
    (hrest : readPlaces rest = some ([], rest)) :
    EndsDigits (places ++ rest) ∧ readPlaces (places ++ rest) = some (places, rest) := by
  cases h with
  | none => exact ⟨hend, hrest⟩
  | point hdigits =>
    refine ⟨fun d hd => Option.some.inj hd ▸ rfl, ?_⟩
    rw [List.cons_append, readPlaces, hdigits.readDigits_append hend, Option.map_some]

/-- **A number is read** up to what may follow it. -/
theorem IsNumber.readNumber_append (h : IsNumber s) (hrest : Ends rest) :
    readNumber (s ++ rest) = some (s, rest) := by
  obtain ⟨hsign, hwhole, hplaces, hexponent⟩ := h
  obtain ⟨hend, hnone, hexponent⟩ := hexponent.readExponent_append hrest
  obtain ⟨hend, hplaces⟩ := hplaces.readPlaces_append hend hnone
  have hsign := hsign.readSign_append hwhole
  have hwhole := hwhole.readWhole_append hend
  simp only [List.append_assoc]
  simp [readNumber, hsign, hwhole, hplaces, hexponent]

theorem IsNumber.exists_cons (h : IsNumber s) :
    ∃ c t, s = c :: t ∧ (c = '-' ∨ isDigit c = true) := by
  obtain ⟨hsign, hwhole, -, -⟩ := h
  cases hsign with
  | minus => exact ⟨_, _, rfl, Or.inl rfl⟩
  | none =>
    obtain ⟨c, t, rfl, hc⟩ := hwhole.exists_cons
    exact ⟨c, _, rfl, Or.inr hc⟩

end NoteSieve.Json
