import NoteSieve.Filter.Compile
import NoteSieve.Proofs.Filter.Predicate
import NoteSieve.Proofs.Text.Folded

/-!
# Searching in any spelling

What a user may rely on when two texts look alike. A search without regard to marks finds all that
the same search with regard to them finds (`NoteSieve.loose_of_caseless`), and it makes no
difference to either whether an accented letter is typed or stored as one character or as several
(`NoteSieve.Pattern.spelling_irrelevant`).

Both go by the fold of the operand, which a pattern keeps: what is looked for is that fold and
nothing else (`NoteSieve.Pattern.foundIn_iff`), so patterns with one fold find the same
(`NoteSieve.Pattern.foundIn_congr`).
-/

namespace NoteSieve

open Text Unicode

namespace Pattern

theorem foundIn_iff {p : Pattern} {s : Text} :
    p.foundIn s = true ↔ p.operand.fold p.comparison <:+: s.fold p.comparison := by
  rw [foundIn, occursIn_iff_infix, p.folded_eq]

/-- A filter that looks for a pattern in a field that a record has looks for it in the text. -/
theorem contains_holds_iff {R F : Type} [Searchable R F] {r : R} {field : F} {operand s : Text}
    {c : Comparison} (hs : Searchable.text? r field = some s) :
    (Predicate.contains field (.of operand c)).holds r = true ↔
      operand.fold c <:+: s.fold c := by
  rw [Predicate.contains_holds_iff, hs]
  simp [foundIn_iff]

theorem equals_iff {p : Pattern} {s : Text} :
    p.equals s = true ↔ s.fold p.comparison = p.operand.fold p.comparison := by
  rw [equals, beq_iff_eq, p.folded_eq]

/-- Nothing but the two folds decides whether a pattern is found. -/
theorem foundIn_congr {c : Comparison} {operand operand' s s' : Text}
    (hoperand : fold c operand = fold c operand') (hs : fold c s = fold c s') :
    (Pattern.of operand c).foundIn s = (Pattern.of operand' c).foundIn s' := by
  rw [foundIn, foundIn, of_folded, of_folded, hoperand, of_comparison, of_comparison, hs]

theorem equals_congr {c : Comparison} {operand operand' s s' : Text}
    (hoperand : fold c operand = fold c operand') (hs : fold c s = fold c s') :
    (Pattern.of operand c).equals s = (Pattern.of operand' c).equals s' := by
  rw [equals, equals, of_folded, of_folded, hoperand, of_comparison, of_comparison, hs]

/-- **A pattern that is found with regard to marks is found without.** -/
theorem foundIn_loose {operand s : Text}
    (h : (Pattern.of operand .caseless).foundIn s = true) :
    (Pattern.of operand .loose).foundIn s = true :=
  occursIn_loose h

theorem equals_loose {operand s : Text} (h : (Pattern.of operand .caseless).equals s = true) :
    (Pattern.of operand .loose).equals s = true := by
  have hfold : fold .caseless s = fold .caseless operand := equals_iff.mp h
  rw [equals_iff, of_comparison, of_operand, ← bare_fold_caseless, hfold, bare_fold_caseless]

/-- **The spelling of a text makes no difference**, neither that of the text looked for nor that of
the text looked at, to a comparison that ignores case or marks. -/
theorem spelling_irrelevant {c : Comparison} {s t : Text}
    (hc : c.ignoresCase = true ∨ c.ignoresMarks = true) (h : decomposed s = decomposed t) :
    fold c s = fold c t ∧
    ∀ u : Text,
      ((Pattern.of s c).foundIn u = (Pattern.of t c).foundIn u ∧
        (Pattern.of s c).equals u = (Pattern.of t c).equals u) ∧
      (Pattern.of u c).foundIn s = (Pattern.of u c).foundIn t ∧
        (Pattern.of u c).equals s = (Pattern.of u c).equals t := by
  have hfold := fold_congr hc h
  refine ⟨hfold, fun u => ⟨⟨?_, ?_⟩, ?_, ?_⟩⟩
  · exact foundIn_congr hfold rfl
  · exact equals_congr hfold rfl
  · exact foundIn_congr rfl hfold
  · exact equals_congr rfl hfold

/-- The letter é and the letter e with an accent behind it are the same. -/
theorem spelling_irrelevant_e_acute :
    decomposed ['é'] = decomposed ['e', '\u0301'] ∧
    fold .caseless ['é'] = fold .caseless ['e', '\u0301'] ∧
    (Pattern.of ['é'] .caseless).foundIn "CAFE\u0301".toList = true := by
  have h : decomposed ['é'] = decomposed ['e', '\u0301'] := by decide +kernel
  obtain ⟨hfold, hpatterns⟩ := spelling_irrelevant (c := .caseless) (Or.inl rfl) h
  refine ⟨h, hfold, ?_⟩
  rw [(hpatterns "CAFE\u0301".toList).1.1]
  decide +kernel

end Pattern

/-- **To ignore marks as well only adds matches**: for a pattern, and so for the notes that have a
tag. -/
theorem loose_of_caseless (operand s : Text) :
    ((Pattern.of operand .caseless).foundIn s = true →
      (Pattern.of operand .loose).foundIn s = true) ∧
    ((Pattern.of operand .caseless).equals s = true →
      (Pattern.of operand .loose).equals s = true) ∧
    ∀ (name : Text) (n : Note), name ≠ [] → (tagFilter name).holds n = true →
      (Token.tag name).noteFilter.holds n = true := by
  refine ⟨Pattern.foundIn_loose, Pattern.equals_loose, fun name n hname hholds => ?_⟩
  have hfilter : (Token.tag name).noteFilter = .contains .tags (.of name.quotedTag .loose) := by
    simp [Token.noteFilter, hname]
  obtain ⟨tags, htags, hfound⟩ := Predicate.contains_holds_iff.mp hholds
  rw [hfilter]
  exact Predicate.contains_holds_iff.mpr ⟨tags, htags, Pattern.foundIn_loose hfound⟩

/-- A note with the tag `CAFÉ` has the tag `café` for either filter. -/
theorem loose_of_caseless_cafe :
    (Pattern.of ['é'] .loose).foundIn "CAFÉ".toList = true ∧
    (Pattern.of ['é'] .loose).equals ['É'] = true ∧
    (Token.tag "café".toList).noteFilter.holds
      (⟨none, none, false, none, some "[\"CAFÉ\"]".toList⟩ : Note) = true :=
  ⟨(loose_of_caseless ['é'] "CAFÉ".toList).1 (by decide),
    (loose_of_caseless ['é'] ['É']).2.1 (by decide),
    (loose_of_caseless [] []).2.2 "café".toList _ (by decide) (by decide)⟩

end NoteSieve
