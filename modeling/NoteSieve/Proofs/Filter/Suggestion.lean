import NoteSieve.Filter.Compile
import NoteSieve.Proofs.Search.Spelling

/-!
# Suggested tags

While a word of a query is being typed, the tags that contain it are suggested, and typed behind a
tag operator the word is also a name: a tag that already has this name is left out. What a token
asks of a tag is said once (`NoteSieve.Token.Suggests`).

The name is looked for without regard to marks and left out with regard to them. So the tag left out
always is one that would have been suggested, and **behind an operator the suggestions are those for
the bare word without the tag that is named** (`NoteSieve.Query.tagFilter_keyword_iff`). What counts
as the name is a question of case and composition alone: to leave out more, say a name with other
accents, would keep one from ever completing it.
-/

namespace NoteSieve

open Text Unicode

/-! ### What a token asks of a tag -/

/-- A tag has a name, in some case and composition. -/
def Tag.IsNamed (r : Tag) (t : Text) : Prop :=
  ∃ name ∈ r.name, name.fold .caseless = t.fold .caseless

/-- **What a token asks of a tag.** Its text is to be in the name without regard to case and marks,
and behind an operator it is not to be the name with regard to marks; a bare operator asks for
nothing. -/
def Token.Suggests (r : Tag) : Token → Prop
  | .keyword k => ∃ name ∈ r.name, k.fold .loose <:+: name.fold .loose
  | .tag t => t ≠ [] → (∃ name ∈ r.name, t.fold .loose <:+: name.fold .loose) ∧ ¬r.IsNamed t

theorem Token.tagFilter_holds_iff {t : Token} {r : Tag} :
    t.tagFilter.holds r = true ↔ t.Suggests r := by
  have hcontains : ∀ s : Text, (Predicate.contains TagField.name (.of s .loose)).holds r = true ↔
      ∃ name ∈ r.name, s.fold .loose <:+: name.fold .loose := by
    intro s
    simp only [Predicate.contains_holds_iff, Pattern.foundIn_iff]
    rfl
  have hequals : ∀ s : Text, (Predicate.equals TagField.name (.of s .caseless)).holds r = true ↔
      r.IsNamed s := by
    intro s
    rw [Predicate.holds, Option.any_eq_true]
    simp only [Pattern.equals_iff]
    rfl
  cases t with
  | keyword k => exact hcontains k
  | tag t =>
    rw [tagFilter]
    split
    · next ht =>
      rw [List.isEmpty_iff] at ht
      exact iff_of_true rfl fun hne => absurd ht hne
    · next ht =>
      rw [List.isEmpty_iff] at ht
      simp only [Predicate.holds_all, List.all_cons, List.all_nil, Bool.and_true,
        Bool.and_eq_true, Predicate.holds_negation, Bool.not_eq_true', ← Bool.not_eq_true,
        hcontains, hequals]
      exact ⟨fun h _ => h, fun h => h ht⟩

/-- **The suggestions for a query are those for its last token.** -/
theorem Query.tagFilter_holds_iff {q : Query} {t : Token} {r : Tag}
    (hq : q.lastToken? = some t) : q.tagFilter.holds r = true ↔ t.Suggests r := by
  rw [tagFilter, hq, Token.tagFilter_holds_iff]

/-! ### Suggestions with and without an operator -/

/-- **A tag that has the name contains it**, whatever the comparison that finds it there. -/
theorem Tag.IsNamed.contains {r : Tag} {t : Text} (h : r.IsNamed t) :
    ∃ name ∈ r.name, t.fold .loose <:+: name.fold .loose := by
  obtain ⟨name, hname, hfold⟩ := h
  have hloose : name.fold .loose = t.fold .loose :=
    Pattern.equals_iff.mp (Pattern.equals_loose (Pattern.equals_iff.mpr hfold))
  exact ⟨name, hname, hloose ▸ List.infix_rfl⟩

/-- **Behind an operator the suggestions are those for the bare word without the tag that is
named.** A tag is suggested for the word exactly if it is suggested behind the operator or has the
name, and never both. So what the operator leaves out is suggested for the word, it is the name up
to case and composition, and it has the marks of the name. -/
theorem Query.tagFilter_keyword_iff {p q : Query} {t : Text} (ht : t ≠ [])
    (hp : p.lastToken? = some (.keyword t)) (hq : q.lastToken? = some (.tag t)) (r : Tag) :
    (p.tagFilter.holds r = true ↔ q.tagFilter.holds r = true ∨ r.IsNamed t) ∧
    ¬(q.tagFilter.holds r = true ∧ r.IsNamed t) ∧
    (p.tagFilter.holds r = true ∧ q.tagFilter.holds r = false ↔
      ∃ name ∈ r.name, decomposed (lower name) = decomposed (lower t)) ∧
    ∀ name ∈ r.name, name.marks ≠ t.marks → q.tagFilter.holds r = p.tagFilter.holds r := by
  have hkeyword : p.tagFilter.holds r = true ↔
      ∃ name ∈ r.name, t.fold .loose <:+: name.fold .loose := tagFilter_holds_iff hp
  have htag : q.tagFilter.holds r = true ↔ p.tagFilter.holds r = true ∧ ¬r.IsNamed t := by
    rw [tagFilter_holds_iff hq, hkeyword]
    exact ⟨fun h => h ht, fun h _ => h⟩
  have hnamed : r.IsNamed t → p.tagFilter.holds r = true := fun h => hkeyword.mpr h.contains
  have hleft : p.tagFilter.holds r = true ∧ q.tagFilter.holds r = false ↔ r.IsNamed t := by
    rw [← Bool.not_eq_true, htag]
    constructor
    · rintro ⟨hfound, hnot⟩
      by_contra hname
      exact hnot ⟨hfound, hname⟩
    · exact fun hname => ⟨hnamed hname, fun h => h.2 hname⟩
  refine ⟨⟨fun h => ?_, ?_⟩, fun h => (htag.mp h.1).2 h.2, ?_, fun name hname hmarks => ?_⟩
  · by_cases hname : r.IsNamed t
    · exact Or.inr hname
    · exact Or.inl (htag.mpr ⟨h, hname⟩)
  · rintro (h | hname)
    · exact (htag.mp h).1
    · exact hnamed hname
  · rw [hleft, Tag.IsNamed]
    simp only [fold_caseless_eq_iff]
  · have hother : ¬r.IsNamed t := by
      rintro ⟨name', hname', hfold⟩
      obtain rfl := Option.some.inj (hname'.symm.trans hname)
      exact hmarks (marks_eq_of_fold_caseless_eq hfold)
    rw [Bool.eq_iff_iff, htag]
    exact ⟨fun h => h.1, fun h => ⟨h, hother⟩⟩

/-- The tag `Café` is left out behind an operator and suggested for the bare word, whether its
accent is typed apart or not; without an accent it is suggested for both. -/
theorem Query.tagFilter_keyword_iff_cafe :
    let r : Tag := ⟨some "Café".toList⟩
    (parse .default "cafe\u0301".toList).tagFilter.holds r = true ∧
    (parse .default "tag:cafe\u0301".toList).tagFilter.holds r = false ∧
    (parse .default "tag:cafe".toList).tagFilter.holds r
      = (parse .default "cafe".toList).tagFilter.holds r := by
  intro r
  have hnamed : ∃ name ∈ r.name, decomposed (lower name) = decomposed (lower "cafe\u0301".toList) :=
    ⟨"Café".toList, rfl, by decide +kernel⟩
  have hleft := (tagFilter_keyword_iff (t := "cafe\u0301".toList) (by decide)
    (p := parse .default "cafe\u0301".toList) (q := parse .default "tag:cafe\u0301".toList)
    (by decide +kernel) (by decide) r).2.2.1.mpr hnamed
  have hkept := (tagFilter_keyword_iff (t := "cafe".toList) (by decide)
    (p := parse .default "cafe".toList) (q := parse .default "tag:cafe".toList)
    (by decide) (by decide) r).2.2.2 "Café".toList rfl (by decide)
  exact ⟨hleft.1, hleft.2, hkept⟩

end NoteSieve
