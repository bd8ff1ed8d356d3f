import NoteSieve.Proofs.Config.Setting
import NoteSieve.Proofs.Query.Grammar
import NoteSieve.Proofs.Unicode.Blank

/-!
# Configured operators

The configuration takes any operator that is not blank, while a query looks for it at the front of a
word, and a word has no white space in it. A character in lower case is white space only if it was
white space before (`NoteSieve.Unicode.eq_of_isBlank_of_mem_lowerChar`), so **an operator with white
space in it is at the front of no word** (`NoteSieve.Text.BeginsWith.not_blank`).

`NoteSieve.Config.tokens_set_operator_iff` says what is left: a configured operator with a name
behind it asks for the tag of that name if the operator has no white space, and otherwise only by
way of the localized operator.
-/

namespace NoteSieve

namespace Text

open Unicode

/-- **What a word without white space begins with** has none either. -/
theorem BeginsWith.not_blank {operator word rest : Text} (h : BeginsWith operator word rest)
    (hword : ∀ c ∈ word, isBlank c = false) : ∀ c ∈ operator, isBlank c = false := by
  obtain ⟨front, rfl, hfront⟩ := h
  intro c hc
  by_contra hblank
  rw [Bool.not_eq_false] at hblank
  have hmem : c ∈ lowerEach front := by
    rw [hfront]
    exact List.mem_flatMap.mpr ⟨c, hc, by simp [lowerChar_of_isBlank hblank]⟩
  obtain ⟨d, hd, hcd⟩ := List.mem_flatMap.mp hmem
  obtain rfl := eq_of_isBlank_of_mem_lowerChar hblank hcd
  rw [hword d (List.mem_append_left rest hd)] at hblank
  exact Bool.noConfusion hblank

end Text

namespace Query

open Text Unicode

variable {ops : Operators} {s name : Text}

/-- **When a text is one tag**: it is a word that begins with the primary operator, which has no
white space then, or else with the localized one. -/
theorem tokens_eq_tag_iff (hne : ops.primary ≠ []) (hname : ∀ d ∈ name, isBlank d = false) :
    (parse ops (ops.primary ++ name)).tokens = [.tag name] ↔
      (∀ d ∈ ops.primary, isBlank d = false) ∨
        ∃ u, words (ops.primary ++ name) = [u ++ name] ∧
          lowerEach u = lowerEach ops.localized := by
  rw [tokens_eq_singleton_iff]
  constructor
  · rintro ⟨w, hw, hread⟩
    have hword : IsWord w := isWord_of_words_eq_singleton hw
    rcases Token.reads_tag_iff.mp hread with h | ⟨-, front, rfl, hfront⟩
    · exact Or.inl (h.not_blank hword.not_blank)
    · exact Or.inr ⟨front, hw, hfront⟩
  · intro h
    by_cases hblank : ∀ d ∈ ops.primary, isBlank d = false
    · have hword : IsWord (ops.primary ++ name) :=
        ⟨List.append_ne_nil_of_left_ne_nil hne _, List.forall_mem_append.mpr ⟨hblank, hname⟩⟩
      exact ⟨_, hword.words_eq, .primary ⟨ops.primary, rfl, rfl⟩⟩
    · obtain ⟨u, hu, hlower⟩ := h.resolve_left hblank
      have hword : IsWord (u ++ name) := isWord_of_words_eq_singleton hu
      have hprimary : ∀ rest, ¬BeginsWith ops.primary (u ++ name) rest :=
        fun rest hbegins => hblank (hbegins.not_blank hword.not_blank)
      exact ⟨u ++ name, hu, .localized hprimary ⟨u, rfl, hlower⟩⟩

end Query

namespace Config

open Text Unicode

/-! ### Operators that are set -/

/-- **An operator is taken as it is**, unless it is blank. -/
theorem operator_eq_ok_iff {v op : Text} :
    operator v = .ok op ↔ op = v ∧ ∃ c ∈ v, isBlank c = false := by
  rw [operator]
  split
  · next h =>
    rw [List.all_eq_true] at h
    simp only [reduceCtorEq, false_iff, not_and]
    rintro - ⟨c, hc, hblank⟩
    rw [h c hc] at hblank
    exact Bool.noConfusion hblank
  · next h =>
    simp only [List.all_eq_true, not_forall, Bool.not_eq_true, exists_prop] at h
    rw [Except.ok.injEq, and_iff_left h, eq_comm]

/-- **A query finds the operator that was set** in front of a name exactly if the operator has no
white space, or what the query takes for a word is the localized operator, in some case, in front of
the name. -/
theorem tokens_set_operator_iff {c c' : Config} {v : Text}
    (h : c.set Setting.primaryOperator.key v = .ok c') {name : Text}
    (hname : ∀ d ∈ name, isBlank d = false) :
    (Query.parse c'.operators (v ++ name)).tokens = [.tag name] ↔
      (∀ d ∈ v, isBlank d = false) ∨
        ∃ u, words (v ++ name) = [u ++ name] ∧ lowerEach u = lowerEach c.operators.localized := by
  obtain ⟨op, hop, rfl⟩ := set_key_eq_ok_iff.mp h
  obtain ⟨rfl, d, hd, -⟩ := operator_eq_ok_iff.mp hop
  exact Query.tokens_eq_tag_iff (List.ne_nil_of_mem hd) hname

/-- With a space in front of it, `TAG:` is found in its place because it is the localized operator
too. -/
theorem tokens_set_operator_leadingSpace :
    Config.default.set Setting.primaryOperator.key " TAG:".toList
      = .ok ⟨currentVersion, ⟨" TAG:".toList, "tag:".toList⟩, none⟩ ∧
    (∀ d ∈ "Home".toList, isBlank d = false) ∧
    (Query.parse ⟨" TAG:".toList, "tag:".toList⟩ " TAG:Home".toList).tokens
      = [.tag "Home".toList] := by
  have hset : Config.default.set Setting.primaryOperator.key " TAG:".toList
      = .ok ⟨currentVersion, ⟨" TAG:".toList, "tag:".toList⟩, none⟩ := by rfl
  have hword : IsWord "Home".toList := by decide
  exact ⟨hset, hword.not_blank, (tokens_set_operator_iff hset hword.not_blank).mpr
    (Or.inr ⟨"TAG:".toList, by decide⟩)⟩

/-- **An operator of two words is taken and never found**: in front of a name, its first word is
read as a keyword. -/
theorem tokens_set_operator_twoWords :
    Config.default.set Setting.primaryOperator.key "my label:".toList
      = .ok ⟨currentVersion, ⟨"my label:".toList, "tag:".toList⟩, none⟩ ∧
    (∀ d ∈ "x".toList, isBlank d = false) ∧
    (Query.parse ⟨"my label:".toList, "tag:".toList⟩ "my label:x".toList).tokens
      ≠ [.tag "x".toList] := by
  have hword : IsWord "x".toList := by decide
  exact ⟨rfl, hword.not_blank, by decide⟩

end Config

end NoteSieve
