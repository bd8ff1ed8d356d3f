import NoteSieve.Proofs.Filter.Query
import NoteSieve.Proofs.Filter.Shape
import NoteSieve.Proofs.Json.Names
import NoteSieve.Proofs.Tags.Written

/-!
# Notes without tags

The tags of a note are kept as the text of an array. A search for the notes without tags tests the
shape of that text (`NoteSieve.Text.SaysNoTags`), while a table of the notes reads it, and a search
for a tag looks for a quoted name in it. That the three agree is a matter of quotes: a text of the
shape has none (`NoteSieve.Text.SaysNoTags.quote_not_mem`).

* **The shape and the reader agree** (`NoteSieve.untaggedFilter_reading`). An array with a name in
  it has the quotes of the name, and the white space in an empty one is white space of the shape.
  So of the texts that read as arrays of names exactly the empty arrays have the shape. It has more
  texts than that, but none with a name in it.
* **No note is both untagged and tagged** (`NoteSieve.untagged_excludes_tag`). The fold of a quoted
  name has its two quotes even if nothing of the name is left between them, as of a name made of
  marks only; and a quote in a fold was there before.
-/

namespace NoteSieve

open Text Unicode

/-! ### The shape -/

theorem Text.SaysNoTags.quote_not_mem {s : Text} (h : s.SaysNoTags) : '"' ∉ s := by
  rcases h with rfl | rfl | ⟨a, b, c, rfl, hblank⟩
  · exact List.not_mem_nil
  · decide
  · intro hquote
    have hmem : '"' ∈ a ++ b ++ c := by simpa [or_assoc] using hquote
    exact absurd (hblank _ hmem) (by decide)

/-! ### The shape and the reader -/

namespace Json

/-- White space of JSON is white space of Unicode. -/
theorem isBlank_of_isSpace {c : Char} (h : isSpace c = true) : isBlank c = true := by
  rcases isSpace_iff.mp h with rfl | rfl | rfl | rfl <;> decide

/-- **An array says that there are no tags exactly if it has no name.** -/
theorem SpelledArray.saysNoTags_iff (a : SpelledArray) : a.text.SaysNoTags ↔ a.texts = [] := by
  obtain ⟨front, names, hfront⟩ := a
  cases hfront with
  | @empty opening closing hopening hclosing =>
    refine iff_of_true ?_ rfl
    obtain ⟨before, after, rfl, hbefore, hafter⟩ := hopening
    obtain ⟨before', after', rfl, hbefore', hafter'⟩ := hclosing
    refine Or.inr (Or.inr ⟨before, after ++ before', after', by simp [text], ?_⟩)
    simp only [List.forall_mem_append]
    exact ⟨⟨fun c hc => isBlank_of_isSpace (hbefore c hc), fun c hc =>
      isBlank_of_isSpace (hafter c hc), fun c hc => isBlank_of_isSpace (hbefore' c hc)⟩,
      fun c hc => isBlank_of_isSpace (hafter' c hc)⟩
  | row _ hrow =>
    -- A name brings its quotes with it, and a row has a name.
    have hname : ∀ (x : SpelledName) (xs : List SpelledName), '"' ∈ front ++ rowText (x :: xs) := by
      intro x xs
      simp [rowText_cons, SpelledName.text]
    have hne : names ≠ [] := by
      rintro rfl
      cases hrow
    obtain ⟨x, xs, rfl⟩ := List.exists_cons_of_ne_nil hne
    exact iff_of_false (fun h => h.quote_not_mem (hname x xs)) (List.cons_ne_nil _ _)

end Json

/-- **The shape of an untagged note and the reader of its tags agree.** The filter of untagged notes
accepts the texts that an alternative of its pattern matches. Of the texts that read as an array of
names these are the ones without a name; of the others they are the empty text, the word `null`, and
a pair of brackets with nothing but white space in it and around it. A note without the field is not
accepted. -/
theorem untaggedFilter_reading :
    (∀ (n : Note) (s : Text), n.tags = some s → (untaggedFilter.holds n = true ↔
      ∃ pieces ∈ Shape.untaggedAlternatives, Shape.Matches pieces s)) ∧
    (∀ (n : Note) (s : Text) (names : List Text), n.tags = some s → Json.ReadsAs s names →
      (untaggedFilter.holds n = true ↔ names = [])) ∧
    (∀ (n : Note) (s : Text), n.tags = some s → (∀ names, ¬Json.ReadsAs s names) →
      (untaggedFilter.holds n = true ↔ s.SaysNoTags)) ∧
    ∀ n : Note, n.tags = none → untaggedFilter.holds n = false := by
  have hshape : ∀ (n : Note) (s : Text), n.tags = some s →
      (untaggedFilter.holds n = true ↔ s.SaysNoTags) := by
    intro n s hn
    rw [untaggedFilter_holds_iff, hn]
    simp only [Option.mem_some_iff, exists_eq_left']
  refine ⟨fun n s hn => ?_, fun n s names hn hreads => ?_, fun n s hn _ => hshape n s hn,
    fun n hn => ?_⟩
  · rw [hshape n s hn, ← Shape.accepts_untagged_iff, Shape.accepts_untagged_iff_matches]
  · obtain ⟨a, rfl, rfl⟩ := Json.readsAs_iff.mp hreads
    rw [hshape n _ hn, a.saysNoTags_iff]
  · rw [← Bool.not_eq_true, untaggedFilter_holds_iff, hn]
    rintro ⟨s, hs, -⟩
    exact Option.not_mem_none s hs

/-- Brackets are read, but not those in a name; a space that JSON does not know is none between two
brackets; and a note without the field is not untagged. -/
theorem untaggedFilter_reading_brackets :
    let note (tags : Option Text) : Note := ⟨none, none, false, none, tags⟩
    untaggedFilter.holds (note (some "\n[ ]".toList)) = true ∧
    untaggedFilter.holds (note (some "[\"[]\"]".toList)) = false ∧
    untaggedFilter.holds (note (some "[\u00a0]".toList)) = true ∧
    untaggedFilter.holds (note none) = false := by
  intro note
  obtain ⟨-, hreads, hunread, hnone⟩ := untaggedFilter_reading
  have hempty : Json.ReadsAs "\n[ ]".toList [] := ⟨.array [], rfl, rfl⟩
  have hname : Json.ReadsAs "[\"[]\"]".toList ["[]".toList] :=
    ⟨.array [.ofText "[]".toList], rfl, rfl⟩
  have hspace : ∀ names, ¬Json.ReadsAs "[\u00a0]".toList names := by
    rintro names ⟨value, hread, -⟩
    have hunread : Json.read? "[\u00a0]".toList = none := by decide
    exact absurd (hunread.symm.trans hread) (by simp)
  refine ⟨(hreads _ _ _ rfl hempty).mpr rfl, ?_, (hunread _ _ rfl hspace).mpr ?_, hnone _ rfl⟩
  · rw [← Bool.not_eq_true, hreads _ _ _ rfl hname]
    exact List.cons_ne_nil _ _
  · exact Or.inr (Or.inr ⟨[], ['\u00a0'], [], rfl, List.forall_mem_singleton.mpr rfl⟩)

/-! ### The shape and the tags searched for -/

/-- **Where a quoted tag is found there is a quote**, whatever is left of the tag in its fold. -/
theorem Text.quote_mem_of_infix {c : Comparison} {t s : Text}
    (h : t.quotedTag.fold c <:+: s.fold c) : '"' ∈ s := by
  have hquote : '"' ∈ t.quotedTag.fold c := by
    rw [mem_fold_iff isInert_quote, quotedTag_eq]
    exact List.mem_cons_self
  exact (mem_fold_iff isInert_quote c).mp (h.subset hquote)

/-- No tag is found in an untagged note, whatever the comparison. -/
theorem contains_quotedTag_holds_eq_false {n : Note} (h : untaggedFilter.holds n = true)
    (c : Comparison) (t : Text) :
    (Predicate.contains NoteField.tags (.of t.quotedTag c)).holds n = false := by
  obtain ⟨s, hs, hshape⟩ := untaggedFilter_holds_iff.mp h
  rw [← Bool.not_eq_true, Predicate.contains_holds_iff]
  rintro ⟨s', hs', hfound⟩
  obtain rfl : s = s' := Option.some.inj (hs.symm.trans hs')
  exact hshape.quote_not_mem (Text.quote_mem_of_infix (Pattern.foundIn_iff.mp hfound))

/-- A note that passes a whole search passes the filter of its text and those of its options. -/
theorem holds_of_searchFilter {ops : Operators} {s : Text} {o : NoteOptions} {n : Note}
    (h : (searchFilter ops s o).holds n = true) :
    (Query.parse ops s).noteFilter.holds n = true ∧ ∀ f ∈ o.filters, f.holds n = true := by
  rw [searchFilter_eq, Predicate.holds_all, List.all_append, Bool.and_eq_true,
    Predicate.conjuncts_holds, List.all_eq_true] at h
  exact h

/-- **Untagged and tagged exclude each other.** A note that the filter of untagged notes accepts is
rejected by the filter of every tag, be it an option or a word of the text. So a search for untagged
notes that asks for a tag as well, in either way, accepts no note at all. -/
theorem untagged_excludes_tag :
    (∀ (n : Note) (t : Text), untaggedFilter.holds n = true →
      (tagFilter t).holds n = false ∧ (t ≠ [] → (Token.tag t).noteFilter.holds n = false)) ∧
    ∀ (ops : Operators) (s : Text) (o : NoteOptions), o.untagged = true →
      (o.tag ≠ none ∨ ∃ t, t ≠ [] ∧ Token.tag t ∈ (Query.parse ops s).tokens) →
      ∀ n : Note, (searchFilter ops s o).holds n = false := by
  have hword : ∀ (n : Note) (t : Text), untaggedFilter.holds n = true → t ≠ [] →
      (Token.tag t).noteFilter.holds n = false := by
    intro n t h ht
    rw [Token.noteFilter_tag ht]
    exact contains_quotedTag_holds_eq_false h .loose t
  refine ⟨fun n t h => ⟨contains_quotedTag_holds_eq_false h .caseless t, hword n t h⟩, ?_⟩
  intro ops s o huntagged htag n
  rw [← Bool.not_eq_true]
  intro h
  obtain ⟨htext, hoptions⟩ := holds_of_searchFilter h
  have hn : untaggedFilter.holds n = true :=
    hoptions _ (by simp [NoteOptions.filters, huntagged])
  rcases htag with hoption | ⟨t, ht, hmem⟩
  · obtain ⟨t, ht⟩ := Option.ne_none_iff_exists'.mp hoption
    have hfound : (tagFilter t).holds n = true := hoptions _ (by simp [NoteOptions.filters, ht])
    exact Bool.noConfusion (hfound.symm.trans (contains_quotedTag_holds_eq_false hn .caseless t))
  · have hfound := Query.noteFilter_holds_iff_forall.mp htext _ hmem (by simpa using ht)
    exact Bool.noConfusion (hfound.symm.trans (hword n t hn ht))

/-- A tag of which nothing is left in its fold is not found in empty brackets either, and no note is
found that has no tags and a given one. -/
theorem untagged_excludes_tag_accent :
    let n : Note := ⟨none, none, false, none, some "[]".toList⟩
    (tagFilter "\u0301".toList).holds n = false ∧
    (Token.tag "\u0301".toList).noteFilter.holds n = false ∧
    (searchFilter .default "tag:\u0301".toList ⟨false, true, none, none, none, none⟩).holds n
      = false := by
  intro n
  obtain ⟨hexcludes, hsearch⟩ := untagged_excludes_tag
  have hn : untaggedFilter.holds n = true := by decide
  obtain ⟨hoption, hword⟩ := hexcludes n "\u0301".toList hn
  have htokens : Token.tag "\u0301".toList ∈ (Query.parse .default "tag:\u0301".toList).tokens := by
    decide
  exact ⟨hoption, hword (by decide),
    hsearch _ _ _ rfl (Or.inr ⟨_, by decide, htokens⟩) n⟩

end NoteSieve
