import Mathlib.Data.List.Basic
import NoteSieve.Config.Basic

/-!
# Changing one setting

A configuration is its version and the values of its settings, of which each can be looked up
(`NoteSieve.Config.value`) and replaced (`NoteSieve.Config.put`). What a change by key and text does
is said in these terms: **the text is read as a value of the setting with the key, and that value
is put in** (`NoteSieve.Config.set_eq_ok_iff`). Whether it is refused depends on the key and the
text alone, so changes under different keys may change places (`NoteSieve.Config.set_comm`).
-/

namespace NoteSieve

namespace Config

variable {c c' : Config} {s t : Setting} {key text : Text}

/-! ### The values of a configuration -/

/-- What a setting can be. -/
abbrev Setting.Value : Setting → Type
  | .primaryOperator => Text
  | .localizedOperator => Text
  | .color => Option Bool

/-- The value of a setting. -/
def value (c : Config) : (s : Setting) → s.Value
  | .primaryOperator => c.operators.primary
  | .localizedOperator => c.operators.localized
  | .color => c.color

/-- The configuration with another value for a setting. -/
def put (c : Config) : (s : Setting) → s.Value → Config
  | .primaryOperator, op => { c with operators := { c.operators with primary := op } }
  | .localizedOperator, op => { c with operators := { c.operators with localized := op } }
  | .color, b => { c with color := b }

/-- The value that a text spells for a setting. -/
def Setting.value? : (s : Setting) → Text → Except ConfigError s.Value
  | .primaryOperator, text => operator text
  | .localizedOperator, text => operator text
  | .color, text => (boolean text).map some

@[simp]
theorem value_put (c : Config) (s : Setting) (x : s.Value) : (c.put s x).value s = x := by
  cases s <;> rfl

theorem value_put_of_ne (h : t ≠ s) (c : Config) (x : s.Value) :
    (c.put s x).value t = c.value t := by
  cases s <;> cases t <;> first | rfl | exact absurd rfl h

@[simp]
theorem version_put (c : Config) (s : Setting) (x : s.Value) : (c.put s x).version = c.version := by
  cases s <;> rfl

theorem put_comm (h : s ≠ t) (c : Config) (x : s.Value) (y : t.Value) :
    (c.put s x).put t y = (c.put t y).put s x := by
  cases s <;> cases t <;> first | rfl | exact absurd rfl h

/-! ### What a change does -/

theorem Setting.ofKey?_eq_some_iff : Setting.ofKey? key = some s ↔ s.key = key := by
  constructor
  · intro h
    simpa using List.find?_some h
  · rintro rfl
    cases s <;> decide

/-- No two settings have one key. -/
theorem Setting.key_inj (h : s.key = t.key) : s = t :=
  Option.some.inj ((ofKey?_eq_some_iff.mpr h).symm.trans (ofKey?_eq_some_iff.mpr rfl))

theorem set_key (c : Config) (s : Setting) (text : Text) :
    c.set s.key text = (s.value? text).map (c.put s) := by
  rw [set, Setting.ofKey?_eq_some_iff.mpr rfl]
  cases s with
  | primaryOperator => cases h : operator text <;> simp only [Setting.value?, h] <;> rfl
  | localizedOperator => cases h : operator text <;> simp only [Setting.value?, h] <;> rfl
  | color => cases h : boolean text <;> simp only [Setting.value?, h] <;> rfl

theorem set_key_eq_ok_iff :
    c.set s.key text = .ok c' ↔ ∃ x, s.value? text = .ok x ∧ c' = c.put s x := by
  rw [set_key]
  cases hx : s.value? text with
  | error e => simp [Except.map]
  | ok x => simp [Except.map, eq_comm]

/-- **What a change does**: a setting has the key, the text spells a value for it, and that value is
put in. -/
theorem set_eq_ok_iff : c.set key text = .ok c' ↔
    ∃ (s : Setting) (x : s.Value), s.key = key ∧ s.value? text = .ok x ∧ c' = c.put s x := by
  constructor
  · intro h
    cases hkey : Setting.ofKey? key with
    | none => simp [set, hkey] at h
    | some s =>
      obtain rfl := Setting.ofKey?_eq_some_iff.mp hkey
      obtain ⟨x, hx, rfl⟩ := set_key_eq_ok_iff.mp h
      exact ⟨s, x, rfl, hx, rfl⟩
  · rintro ⟨s, x, rfl, hx, rfl⟩
    exact set_key_eq_ok_iff.mpr ⟨x, hx, rfl⟩

theorem version_of_set_eq_ok (h : c.set key text = .ok c') : c'.version = c.version := by
  obtain ⟨s, x, -, -, rfl⟩ := set_eq_ok_iff.mp h
  exact version_put c s x

/-- **Changes under different keys may change places.** -/
theorem set_comm {key₁ key₂ text₁ text₂ : Text} {c₁ c₂ : Config} (hkey : key₁ ≠ key₂)
    (h₁ : c.set key₁ text₁ = .ok c₁) (h₂ : c.set key₂ text₂ = .ok c₂) :
    ∃ c', c₁.set key₂ text₂ = .ok c' ∧ c₂.set key₁ text₁ = .ok c' := by
  obtain ⟨s, x, rfl, hx, rfl⟩ := set_eq_ok_iff.mp h₁
  obtain ⟨t, y, rfl, hy, rfl⟩ := set_eq_ok_iff.mp h₂
  have hst : s ≠ t := fun h => hkey (congrArg Setting.key h)
  exact ⟨(c.put s x).put t y, set_eq_ok_iff.mpr ⟨t, y, rfl, hy, rfl⟩,
    set_eq_ok_iff.mpr ⟨s, x, rfl, hx, put_comm hst c x y⟩⟩

end Config

end NoteSieve
