import NoteSieve.Proofs.Filter.Predicate
import NoteSieve.Proofs.Filter.Query
import NoteSieve.Proofs.Search.Spelling

/-!
# The filter of a whole search

A search for notes has a text and options. Its filter begins as that of the text, and the filters of
the options are joined to it one after the other (`NoteSieve.Predicate.both`), each time into one
conjunction that takes the place of both. What this does is told twice.

* **By its parts.** Joined filters have the parts of all of them in a row
  (`NoteSieve.Predicate.foldl_both`). The filter of a text has a part for each token, or the truth
  as its only part; the filter of an option is a part by itself. So nothing is nested, and the parts
  can be counted.
* **By the notes.** What a part asks of a note is a fact about the texts of the note
  (`NoteSieve.Token.Asks`, `NoteSieve.NoteOptions.Asks`), and a note passes if all of them hold.

Both are said of every search by `NoteSieve.searchFilter_holds_iff`.
-/

namespace NoteSieve

open Text Unicode

/-! ### What the tokens ask for -/

/-- **What a token asks of a note.** A keyword is to be in the content and a tag to be written among
the tags, both without regard to case and marks; a bare operator asks for nothing. -/
def Token.Asks (n : Note) : Token → Prop
  | .keyword k => ∃ s ∈ n.content, k.fold .loose <:+: s.fold .loose
  | .tag t => t ≠ [] → ∃ s ∈ n.tags, t.quotedTag.fold .loose <:+: s.fold .loose

theorem Token.noteFilter_holds_iff {t : Token} {n : Note} :
    t.noteFilter.holds n = true ↔ t.Asks n := by
  cases t with
  | keyword k =>
    simp only [noteFilter, Predicate.contains_holds_iff, Pattern.foundIn_iff]
    rfl
  | tag t =>
    rw [noteFilter]
    split
    · next ht =>
      rw [List.isEmpty_iff] at ht
      exact iff_of_true rfl fun hne => absurd ht hne
    · next ht =>
      rw [List.isEmpty_iff] at ht
      simp only [Predicate.contains_holds_iff, Pattern.foundIn_iff]
      exact ⟨fun h _ => h, fun h => h ht⟩

/-- The parts of the filter of a text: one for each token, or the truth alone. -/
theorem Query.isTest_of_mem_conjuncts {q : Query} :
    ∀ p ∈ q.noteFilter.conjuncts, p.IsTest := by
  rw [noteFilter]
  split
  · exact List.forall_mem_singleton.mpr trivial
  · rw [Predicate.conjuncts, List.forall_mem_map]
    rintro (k | t) -
    · trivial
    · rw [Token.noteFilter]
      split <;> trivial

theorem Query.length_conjuncts (q : Query) :
    q.noteFilter.conjuncts.length = max 1 q.tokens.length := by
  rw [noteFilter, isEmpty]
  cases htokens : q.tokens with
  | nil => rfl
  | cons t ts =>
    rw [List.isEmpty_cons, if_neg Bool.false_ne_true, Predicate.conjuncts, List.length_map,
      List.length_cons]
    omega

/-! ### What the options ask for -/

/-- **The tags of a note say that there are none**: nothing at all, the word `null`, or a pair of
brackets with nothing but white space in it and around it. -/
def Text.SaysNoTags (s : Text) : Prop :=
  s = [] ∨ s = "null".toList ∨
    ∃ a b c : Text, s = a ++ '[' :: (b ++ ']' :: c) ∧ ∀ d ∈ a ++ b ++ c, isBlank d = true

theorem Shape.isEmptyBrackets_iff {s : Text} : isEmptyBrackets s = true ↔
    ∃ a b c : Text, s = a ++ '[' :: (b ++ ']' :: c) ∧ ∀ d ∈ a ++ b ++ c, isBlank d = true := by
  have hopen : ¬isBlank '[' = true := by decide
  have hclose : ¬isBlank ']' = true := by decide
  constructor
  · intro h
    rw [isEmptyBrackets] at h
    split at h
    case h_2 => exact absurd h Bool.false_ne_true
    case h_1 inner hinner =>
      split at h
      case h_2 => exact absurd h Bool.false_ne_true
      case h_1 c hc =>
        refine ⟨s.takeWhile isBlank, inner.takeWhile isBlank, c, ?_, ?_⟩
        · rw [← hc, List.takeWhile_append_dropWhile, ← hinner, List.takeWhile_append_dropWhile]
        · rw [List.forall_mem_append, List.forall_mem_append]
          exact ⟨⟨fun d => List.mem_takeWhile_imp, fun d => List.mem_takeWhile_imp⟩,
            List.all_eq_true.mp h⟩
  · rintro ⟨a, b, c, rfl, hblank⟩
    rw [List.forall_mem_append, List.forall_mem_append] at hblank
    obtain ⟨⟨ha, hb⟩, hc⟩ := hblank
    have hinner : (b ++ ']' :: c).dropWhile isBlank = ']' :: c := by
      rw [List.dropWhile_append_of_pos hb, List.dropWhile_cons_of_neg hclose]
    rw [isEmptyBrackets, List.dropWhile_append_of_pos ha, List.dropWhile_cons_of_neg hopen]
    simp only [hinner]
    exact List.all_eq_true.mpr hc

theorem Shape.accepts_untagged_iff {s : Text} : untagged.accepts s = true ↔ s.SaysNoTags := by
  rw [accepts_untagged, isUntagged, Bool.or_eq_true, Bool.or_eq_true, isEmptyBrackets_iff,
    List.isEmpty_iff, beq_iff_eq, or_assoc]
  rfl

theorem deletedFilter_holds_iff {deleted : Bool} {n : Note} :
    (deletedFilter deleted).holds n = true ↔ n.deleted = deleted := by
  rw [deletedFilter, Predicate.holds, beq_iff_eq]
  exact Option.some_inj

theorem untaggedFilter_holds_iff {n : Note} :
    untaggedFilter.holds n = true ↔ ∃ s ∈ n.tags, s.SaysNoTags := by
  simp only [untaggedFilter, Predicate.fullMatch_holds_iff, Shape.accepts_untagged_iff]
  rfl

namespace NoteOptions

/-- **What the options of a search ask of a note.** An option that is not given asks for nothing,
and no test is passed by a field that the note does not have. -/
structure Asks (o : NoteOptions) (n : Note) : Prop where
  /-- The note is in the trash, or out of it. -/
  deleted : n.deleted = o.deleted
  /-- Its tags are there and say that there are none. -/
  untagged : o.untagged = true → ∃ s ∈ n.tags, s.SaysNoTags
  /-- The tag is written among its tags, in some case. -/
  tag : ∀ t ∈ o.tag, ∃ s ∈ n.tags, t.quotedTag.fold .caseless <:+: s.fold .caseless
  /-- The marker is among its markers, in some case. -/
  systemTag : ∀ t ∈ o.systemTag, ∃ s ∈ n.systemTags, t.fold .caseless <:+: s.fold .caseless
  /-- The text is in the first line of its content, without regard to case and marks. -/
  title : ∀ t ∈ o.title, ∃ s ∈ n.content, t.fold .loose <:+: s.firstLine.fold .loose
  /-- The text is in its content to the letter. -/
  exact : ∀ t ∈ o.exact, ∃ s ∈ n.content, t <:+: s

/-- The number of options that are given, besides the one that every search has. -/
def given (o : NoteOptions) : Nat :=
  o.untagged.toNat + [o.tag, o.systemTag, o.title, o.exact].countP Option.isSome

variable {o : NoteOptions}

theorem all_toList_map_iff {α β : Type} {f : α → β} {holds : β → Bool} {a : Option α} :
    (a.map f).toList.all holds = true ↔ ∀ x ∈ a, holds (f x) = true := by
  cases a <;> simp

theorem filters_hold_iff {n : Note} :
    o.filters.all (Predicate.holds n) = true ↔ o.Asks n := by
  have huntagged : (if o.untagged then [untaggedFilter] else []).all (Predicate.holds n) = true ↔
      (o.untagged = true → ∃ s ∈ n.tags, s.SaysNoTags) := by
    split
    · next h => simp [h, untaggedFilter_holds_iff]
    · next h => simp [h]
  simp only [filters, List.all_append, Bool.and_eq_true, huntagged, all_toList_map_iff,
    List.all_cons, List.all_nil, Bool.and_true, deletedFilter_holds_iff]
  simp only [tagFilter, systemTagFilter, titleFilter, exactFilter, Predicate.contains_holds_iff,
    Predicate.firstLineContains_holds_iff, Pattern.foundIn_iff]
  constructor
  · rintro ⟨⟨⟨⟨⟨hdeleted, huntagged⟩, htag⟩, hsystem⟩, htitle⟩, hexact⟩
    exact ⟨hdeleted, huntagged, htag, hsystem, htitle, hexact⟩
  · rintro ⟨hdeleted, huntagged, htag, hsystem, htitle, hexact⟩
    exact ⟨⟨⟨⟨⟨hdeleted, huntagged⟩, htag⟩, hsystem⟩, htitle⟩, hexact⟩

theorem isTest_of_mem_filters : ∀ f ∈ o.filters, f.IsTest := by
  simp only [filters, List.forall_mem_append, List.forall_mem_singleton, Option.mem_toList,
    Option.map_eq_some_iff]
  refine ⟨⟨⟨⟨⟨trivial, fun f hf => ?_⟩, ?_⟩, ?_⟩, ?_⟩, ?_⟩
  · split at hf
    · rw [List.mem_singleton.mp hf]
      trivial
    · exact absurd hf List.not_mem_nil
  all_goals
    rintro _ ⟨t, -, rfl⟩
    trivial

theorem length_filters (o : NoteOptions) : o.filters.length = 1 + o.given := by
  obtain ⟨deleted, untagged, tag, systemTag, title, exact⟩ := o
  cases untagged <;> cases tag <;> cases systemTag <;> cases title <;> cases exact <;> rfl

end NoteOptions

/-! ### What a search asks for -/

theorem searchFilter_eq (ops : Operators) (s : Text) (o : NoteOptions) :
    searchFilter ops s o = .all ((Query.parse ops s).noteFilter.conjuncts ++ o.filters) := by
  have hfilters : o.filters = deletedFilter o.deleted :: o.filters.tail := rfl
  rw [searchFilter, hfilters, Predicate.foldl_both, ← hfilters,
    Predicate.flatMap_conjuncts NoteOptions.isTest_of_mem_filters]

/-- **A search asks for everything requested and nothing else.** A note passes if every token of the
text and every option that is given ask for what it has. The filter is one conjunction of tests: one
for each token, or one if there is none, one for the trash, and one for each option that is
given. -/
theorem searchFilter_holds_iff (ops : Operators) (s : Text) (o : NoteOptions) :
    (∀ n : Note, (searchFilter ops s o).holds n = true ↔
      (∀ t ∈ (Query.parse ops s).tokens, t.Asks n) ∧ o.Asks n) ∧
    ∃ parts, searchFilter ops s o = .all parts ∧ (∀ p ∈ parts, p.IsTest) ∧
      parts.length = max 1 (Query.parse ops s).tokens.length + 1 + o.given := by
  rw [searchFilter_eq]
  refine ⟨fun n => ?_, _, rfl, ?_, ?_⟩
  · rw [Predicate.holds_all, List.all_append, Bool.and_eq_true, Predicate.conjuncts_holds,
      Query.noteFilter_holds, List.all_eq_true, NoteOptions.filters_hold_iff]
    simp only [Token.noteFilter_holds_iff]
  · exact List.forall_mem_append.mpr
      ⟨Query.isTest_of_mem_conjuncts, NoteOptions.isTest_of_mem_filters⟩
  · rw [List.length_append, Query.length_conjuncts, NoteOptions.length_filters, Nat.add_assoc]

end NoteSieve
