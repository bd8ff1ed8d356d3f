import NoteSieve.Filter.Compile
import NoteSieve.Proofs.Query.Completion
import NoteSieve.Proofs.Text.Words

/-!
# Filters of a search text

A search text is read word by word, so two texts with white space between them have the tokens of
the one and then those of the other (`NoteSieve.Query.tokens_parse_append`). What a text asks for is
made from its tokens in one of two ways.

* A filter of notes asks for every token (`NoteSieve.Query.noteFilter_holds`). A text without words
  asks for nothing, and has a filter of its own only in order to be shown as what it is.
* A filter of tags looks at the last token alone: the word being typed.

Hence **a longer text is a smaller set of notes, and the suggestions of its last word**
(`NoteSieve.Query.holds_parse_append`). For notes the order of the tokens is nothing either, nor how
often there is one: **a query is a set of constraints** (`NoteSieve.Query.noteFilter_constraints`),
and an operator with nothing after it is none of them.
-/

namespace NoteSieve

namespace Query

open Text Unicode

/-! ### The tokens of two texts -/

theorem tokens_parse_append {w : Text} (hne : w ≠ []) (hw : ∀ c ∈ w, isBlank c = true)
    (ops : Operators) (a b : Text) :
    (parse ops (a ++ w ++ b)).tokens = (parse ops a).tokens ++ (parse ops b).tokens := by
  rw [tokens_parse, words_append_blanks hne hw, List.map_append, tokens_parse, tokens_parse]

theorem tokens_parse_eq_nil_iff {ops : Operators} {s : Text} :
    (parse ops s).tokens = [] ↔ s.all isBlank = true := by
  rw [tokens_parse, List.map_eq_nil_iff, words_eq_nil_iff, List.all_eq_true]

/-! ### What a text asks for -/

/-- **A note passes if it meets every token.** -/
theorem noteFilter_holds {R : Type} [Searchable R NoteField] (q : Query) (r : R) :
    q.noteFilter.holds r = q.tokens.all fun t => t.noteFilter.holds r := by
  rw [noteFilter, isEmpty]
  cases htokens : q.tokens with
  | nil => rfl
  | cons t ts =>
    rw [List.isEmpty_cons, if_neg Bool.false_ne_true, Predicate.holds_all, List.all_map]
    rfl

theorem tagFilter_eq_of_getLast? {p q : Query} (h : p.tokens.getLast? = q.tokens.getLast?) :
    p.tagFilter = q.tagFilter := by
  rw [tagFilter, tagFilter, lastToken?, lastToken?, h]

theorem tagFilter_parse_append {w : Text} (hne : w ≠ []) (hw : ∀ c ∈ w, isBlank c = true)
    (ops : Operators) (a b : Text) :
    (parse ops (a ++ w ++ b)).tagFilter
      = if b.all isBlank then (parse ops a).tagFilter else (parse ops b).tagFilter := by
  have htokens := tokens_parse_append hne hw ops a b
  split
  · next hb =>
    refine tagFilter_eq_of_getLast? ?_
    rw [htokens, tokens_parse_eq_nil_iff.mpr hb, List.append_nil]
  · next hb =>
    have hword : (parse ops b).tokens ≠ [] := fun h => hb (tokens_parse_eq_nil_iff.mp h)
    refine tagFilter_eq_of_getLast? ?_
    rw [htokens, List.getLast?_append_of_ne_nil _ hword]

/-- **Two texts in a row.** With white space between them, a note passes if it passes for the one
and for the other; the tags that are suggested are those for the first text as long as the second
has no word, that is, nothing but white space, and those for the second text otherwise. -/
theorem holds_parse_append {w : Text} (hne : w ≠ []) (hw : ∀ c ∈ w, isBlank c = true)
    (ops : Operators) (a b : Text) :
    (∀ {R : Type} [Searchable R NoteField] (r : R), (parse ops (a ++ w ++ b)).noteFilter.holds r
      = ((parse ops a).noteFilter.holds r && (parse ops b).noteFilter.holds r)) ∧
    ∀ {R : Type} [Searchable R TagField] (r : R), (parse ops (a ++ w ++ b)).tagFilter.holds r
      = if b.all isBlank then (parse ops a).tagFilter.holds r
        else (parse ops b).tagFilter.holds r := by
  refine ⟨fun r => ?_, fun r => ?_⟩
  · rw [noteFilter_holds, tokens_parse_append hne hw, List.all_append, ← noteFilter_holds,
      ← noteFilter_holds]
  · rw [tagFilter_parse_append hne hw]
    split <;> rfl

/-- A line break and a wide space are white space, too: the note has the word but not the tag, and
behind the second text there is nothing to suggest for. -/
theorem holds_parse_append_lineBreak :
    "\n\u3000".toList ≠ [] ∧ (∀ c ∈ "\n\u3000".toList, isBlank c = true) ∧
    (parse .default ("milk".toList ++ "\n\u3000".toList ++ "TAG:home".toList)).noteFilter.holds
      (⟨none, some "Milk".toList, false, none, some "[\"work\"]".toList⟩ : Note) = false ∧
    (parse .default ("tag:Home".toList ++ "\n\u3000".toList ++ " ".toList)).tagFilter.holds
      (⟨some "Homework".toList⟩ : Tag) = true := by
  have hblank : ∀ c ∈ "\n\u3000".toList, isBlank c = true := List.all_eq_true.mp rfl
  have hne : "\n\u3000".toList ≠ [] := by decide
  refine ⟨hne, hblank, ?_, ?_⟩
  · rw [(holds_parse_append hne hblank .default _ _).1]
    decide
  · rw [(holds_parse_append hne hblank .default _ _).2]
    decide

/-! ### A query as a set of constraints -/

section Constraints

variable {R : Type} [Searchable R NoteField]

/-- A record passes if it meets every token that is not a bare operator. -/
theorem noteFilter_holds_iff_forall {q : Query} {r : R} : q.noteFilter.holds r = true ↔
    ∀ t ∈ q.tokens, t ≠ .tag [] → t.noteFilter.holds r = true := by
  rw [noteFilter_holds, List.all_eq_true]
  refine forall₂_congr fun t _ => ⟨fun h _ => h, fun h => ?_⟩
  by_cases hbare : t = .tag []
  · rw [hbare]
    rfl
  · exact h hbare

/-- **Fewer tokens, more records**, where bare operators do not count. -/
theorem noteFilter_holds_of_forall_mem {p q : Query} {r : R}
    (h : ∀ t ∈ p.tokens, t ≠ .tag [] → t ∈ q.tokens) (hq : q.noteFilter.holds r = true) :
    p.noteFilter.holds r = true := by
  rw [noteFilter_holds_iff_forall] at hq ⊢
  exact fun t ht hbare => hq t (h t ht hbare) hbare

end Constraints

/-- **A query is a set of constraints.** If all tokens of one query are tokens of another, bare
operators apart, the first lets every record pass that the second does. So queries with the same
tokens, in any order, each any number of times, and with any bare operators among them, let the same
records pass; a text with more words lets no more records pass; and a query of nothing but bare
operators lets every record pass. -/
theorem noteFilter_constraints {R : Type} [Searchable R NoteField] :
    (∀ p q : Query, (∀ t ∈ p.tokens, t ≠ .tag [] → t ∈ q.tokens) →
      ∀ r : R, q.noteFilter.holds r = true → p.noteFilter.holds r = true) ∧
    (∀ p q : Query, (∀ t, t ≠ .tag [] → (t ∈ p.tokens ↔ t ∈ q.tokens)) →
      ∀ r : R, p.noteFilter.holds r = q.noteFilter.holds r) ∧
    (∀ (ops : Operators) (s s' : Text), (∀ w ∈ s.words, w ∈ s'.words) →
      ∀ r : R, (parse ops s').noteFilter.holds r = true →
        (parse ops s).noteFilter.holds r = true) ∧
    ∀ q : Query, (∀ t ∈ q.tokens, t = .tag []) → ∀ r : R, q.noteFilter.holds r = true := by
  refine ⟨fun p q h r => noteFilter_holds_of_forall_mem h, fun p q h r => ?_,
    fun ops s s' h r => noteFilter_holds_of_forall_mem fun t ht _ => ?_, fun q h r => ?_⟩
  · rw [Bool.eq_iff_iff]
    exact ⟨noteFilter_holds_of_forall_mem fun t ht hbare => (h t hbare).mpr ht,
      noteFilter_holds_of_forall_mem fun t ht hbare => (h t hbare).mp ht⟩
  · rw [tokens_parse] at ht ⊢
    exact List.map_subset _ h ht
  · exact noteFilter_holds_iff_forall.mpr fun t ht hbare => absurd (h t ht) hbare

/-- The words of the first text in another order, one of them twice and a bare operator between
them; a note without a content and without tags passes for bare operators. -/
theorem noteFilter_constraints_milk :
    let p := parse .default "milk tag: tag:Home milk".toList
    let q := parse .default "TAG: tag:Home milk".toList
    let n : Note := ⟨none, some "Milk".toList, false, none, some "[\"home\"]".toList⟩
    let blank : Note := ⟨none, none, false, none, none⟩
    q.noteFilter.holds n = true ∧ p.noteFilter.holds n = true ∧
      p.noteFilter.holds blank = q.noteFilter.holds blank ∧
      (parse .default "tag: TAG:".toList).noteFilter.holds blank = true := by
  intro p q n blank
  obtain ⟨hfewer, hsame, -, hbare⟩ := noteFilter_constraints (R := Note)
  have hp : p.tokens = [.keyword "milk".toList, .tag [], .tag "Home".toList,
      .keyword "milk".toList] := by decide
  have hq : q.tokens = [.tag [], .tag "Home".toList, .keyword "milk".toList] := by decide
  have htokens : (parse .default "tag: TAG:".toList).tokens = [.tag [], .tag []] := by
    decide
  have hn : q.noteFilter.holds n = true := by decide
  refine ⟨hn, hfewer p q ?_ n hn, hsame p q ?_ blank, hbare _ ?_ blank⟩
  · rw [hp, hq]
    simp
  · intro t ht
    rw [hp, hq]
    simp [ht, or_comm]
  · rw [htokens]
    simp

end Query

end NoteSieve
