import Mathlib.Data.List.DropRight
import Mathlib.Data.List.TakeWhile
import NoteSieve.Json.Reader

/-!
# The spellings of a string

One text has many spellings as a JSON string, since most characters may be escaped or not. Here is
what may stand between the two quotes of a string (`NoteSieve.Json.Spells`), beside the reader:
**the reader takes for a string exactly what the grammar spells**
(`NoteSieve.Json.readUnits_eq_some_iff`). What is said of white space (`NoteSieve.Json.IsWhite`) is
what the rest of the grammar needs of it.
-/

namespace NoteSieve.Json

/-! ### Strings -/

/-- **What may stand between the quotes of a string**, and the numbers it stands for. -/
inductive Spells : Text → List Nat → Prop
  | nil : Spells [] []
  /-- A character that stands for itself. -/
  | plain {c : Char} {s : Text} {units : List Nat} :
      0x20 ≤ c.toNat → c ≠ '"' → c ≠ '\\' → Spells s units → Spells (c :: s) (c.toNat :: units)
  /-- A backslash and one character. -/
  | short {c d : Char} {s : Text} {units : List Nat} :
      shortEscape? c = some d → Spells s units → Spells ('\\' :: c :: s) (d.toNat :: units)
  /-- A backslash, a `u` and four digits. -/
  | code {a b c d : Char} {n : Nat} {s : Text} {units : List Nat} :
      Text.digits? 16 [a, b, c, d] = some n → Spells s units →
        Spells ('\\' :: 'u' :: a :: b :: c :: d :: s) (n :: units)

variable {s t rest : Text} {units : List Nat}

theorem spells_of_readUnits (h : readUnits s = some (units, rest)) :
    ∃ spelling, s = spelling ++ '"' :: rest ∧ Spells spelling units := by
  fun_induction readUnits s generalizing units rest with
  | case1 => exact absurd h (by simp)
  | case2 tail =>
    obtain ⟨rfl, rfl⟩ := Prod.mk.inj (Option.some.inj h)
    exact ⟨[], rfl, Spells.nil⟩
  | case3 a b c d tail n units' rest' hread hn ih =>
    obtain ⟨rfl, rfl⟩ := Prod.mk.inj (Option.some.inj h)
    obtain ⟨spelling, rfl, hspells⟩ := ih hread
    exact ⟨_, rfl, Spells.code hn hspells⟩
  | case4 => exact absurd h (by simp)
  | case5 c tail _ d units' rest' hread hd ih =>
    obtain ⟨rfl, rfl⟩ := Prod.mk.inj (Option.some.inj h)
    obtain ⟨spelling, rfl, hspells⟩ := ih hread
    exact ⟨_, rfl, Spells.short hd hspells⟩
  | case6 => exact absurd h (by simp)
  | case7 => exact absurd h (by simp)
  | case8 c tail hquote _ _ hc ih =>
    obtain ⟨⟨units', rest'⟩, hread, hpair⟩ := Option.map_eq_some_iff.mp h
    obtain ⟨rfl, rfl⟩ := Prod.mk.inj hpair
    obtain ⟨spelling, rfl, hspells⟩ := ih hread
    rw [not_or, Nat.not_lt] at hc
    exact ⟨_, rfl, Spells.plain hc.1 (fun h => hquote h) hc.2 hspells⟩

theorem Spells.readUnits_append (h : Spells s units) (rest : Text) :
    readUnits (s ++ '"' :: rest) = some (units, rest) := by
  induction h with
  | nil => rfl
  | plain hc hquote hback _ ih =>
    rw [List.cons_append, readUnits.eq_5 _ _ (fun h => hquote h) (fun _ _ _ _ _ h _ => hback h)
      (fun _ _ h _ => hback h), if_neg, ih]
    · rfl
    · exact not_or.mpr ⟨by omega, hback⟩
  | @short c d s units hd _ ih =>
    -- A `u` would begin a code, but it is short for nothing.
    have hne : c ≠ 'u' := by
      rintro rfl
      exact absurd hd (by rw [show shortEscape? 'u' = none from rfl]; simp)
    rw [List.cons_append, List.cons_append, readUnits.eq_4 _ _ (fun _ _ _ _ _ h _ => hne h), hd, ih]
  | code hn _ ih =>
    simp only [List.cons_append]
    rw [readUnits, hn, ih]

/-- **What the reader takes for a string is what the grammar spells**, up to the closing quote. -/
theorem readUnits_eq_some_iff :
    readUnits s = some (units, rest) ↔ ∃ spelling, s = spelling ++ '"' :: rest ∧
      Spells spelling units := by
  constructor
  · exact spells_of_readUnits
  · rintro ⟨spelling, rfl, h⟩
    exact h.readUnits_append rest

/-- A character is no half of a surrogate pair. -/
theorem not_surrogate (c : Char) : isLead c.toNat = false ∧ isTrail c.toNat = false := by
  have hvalid : c.toNat < 0xD800 ∨ 0xDFFF < c.toNat ∧ c.toNat < 0x110000 := c.valid
  simp only [isLead, isTrail, Bool.and_eq_false_iff, decide_eq_false_iff_not]
  omega

/-- Characters that stand for themselves stand for their text. -/
theorem textOfUnits_toNat (s : Text) : textOfUnits (s.map Char.toNat) = some s := by
  induction s with
  | nil => rfl
  | cons c s ih =>
    obtain ⟨hlead, htrail⟩ := not_surrogate c
    cases s with
    | nil => simp [textOfUnits, hlead, htrail]
    | cons d s =>
      rw [List.map_cons, List.map_cons, textOfUnits, if_neg (by simp [hlead]),
        if_neg (by simp [htrail]), ← List.map_cons, ih]
      simp

/-! ### White space -/

theorem isSpace_iff {c : Char} :
    isSpace c = true ↔ c = ' ' ∨ c = '\t' ∨ c = '\n' ∨ c = '\r' := by
  simp [isSpace, or_assoc]

/-- White space, or nothing. -/
def IsWhite (s : Text) : Prop := ∀ c ∈ s, isSpace c = true

theorem isWhite_nil : IsWhite [] := List.forall_mem_nil _

theorem IsWhite.append (hs : IsWhite s) (ht : IsWhite t) : IsWhite (s ++ t) :=
  List.forall_mem_append.mpr ⟨hs, ht⟩

theorem exists_isWhite (h : skipSpace s = t) : ∃ space, IsWhite space ∧ s = space ++ t := by
  refine ⟨s.takeWhile isSpace, fun _ h => List.mem_takeWhile_imp h, ?_⟩
  rw [← h]
  exact List.takeWhile_append_dropWhile.symm

theorem skipSpace_append (hs : IsWhite s) (t : Text) : skipSpace (s ++ t) = skipSpace t := by
  rw [skipSpace, List.dropWhile_append_of_pos hs]
  rfl

theorem skipSpace_cons {c : Char} (h : isSpace c = false) (s : Text) :
    skipSpace (c :: s) = c :: s := by
  rw [skipSpace, List.dropWhile_cons_of_neg (by rw [h]; exact Bool.false_ne_true)]

/-- White space does not hide what comes after it. -/
theorem skipSpace_append_cons {c : Char} (hs : IsWhite s) (hc : isSpace c = false) (t : Text) :
    skipSpace (s ++ c :: t) = c :: t := by
  rw [skipSpace_append hs, skipSpace_cons hc]

theorem skipSpace_eq_nil (hs : IsWhite s) : skipSpace s = [] := by
  rw [← List.append_nil s, skipSpace_append hs]
  rfl

end NoteSieve.Json
