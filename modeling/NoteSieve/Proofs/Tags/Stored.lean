import NoteSieve.Filter.Compile
import NoteSieve.Proofs.Json.Names
import NoteSieve.Proofs.Tags.Written
import NoteSieve.Proofs.Text.Code

/-!
# Tags in the spelling of the store

The storage layer writes the names of a note's tags in their written form, with the same separator
between any two of them (`NoteSieve.Text.storedArray`). On such an array a search for a tag looks
at what stands between two quotes, and two quotes with no third one between them enclose either a
name or a separator (`NoteSieve.Text.between_joinWith_iff`). So a tag is found by the name that has
its fold, and there is one exception: **a tag that folds to the separator is found between any two
names** (`NoteSieve.storedArray_holds_iff`).
-/

namespace NoteSieve

namespace Text

open Unicode

/-! ### Between two quotes -/

/-- A text stands between two quotes of another one. -/
def Between (s m : Text) : Prop := ∃ a b, s = a ++ '"' :: (m ++ '"' :: b)

variable {s t m : Text}

theorem between_cons_quote_iff : Between ('"' :: s) m ↔ (∃ b, s = m ++ '"' :: b) ∨ Between s m := by
  constructor
  · rintro ⟨a, b, h⟩
    cases a with
    | nil => exact Or.inl ⟨b, (List.cons.inj h).2⟩
    | cons c a => exact Or.inr ⟨a, b, (List.cons.inj h).2⟩
  · rintro (⟨b, rfl⟩ | ⟨a, b, rfl⟩)
    · exact ⟨[], b, rfl⟩
    · exact ⟨'"' :: a, b, rfl⟩

/-- The two quotes are behind whatever has none. -/
theorem between_append_iff (hs : '"' ∉ s) : Between (s ++ t) m ↔ Between t m := by
  constructor
  · rintro ⟨a, b, h⟩
    rcases List.append_eq_append_iff.mp h with ⟨x, rfl, rfl⟩ | ⟨x, rfl, hx⟩
    · exact ⟨x, b, rfl⟩
    · cases x with
      | nil => exact ⟨[], b, by simpa using hx.symm⟩
      | cons c x =>
        obtain ⟨rfl, -⟩ := List.cons.inj hx
        exact absurd (by simp) hs
  · rintro ⟨a, b, rfl⟩
    exact ⟨s ++ a, b, by simp⟩

theorem not_between (hs : '"' ∉ s) : ¬Between s m := by
  rintro ⟨a, b, rfl⟩
  exact hs (by simp)

/-- The first quote encloses what stands before the second one. -/
theorem between_cons_append_quote_iff (hs : '"' ∉ s) (hm : '"' ∉ m) :
    Between ('"' :: (s ++ '"' :: t)) m ↔ m = s ∨ Between ('"' :: t) m := by
  rw [between_cons_quote_iff, between_append_iff hs]
  refine or_congr_left ⟨?_, ?_⟩
  · rintro ⟨b, h⟩
    have hquote : ¬('"' != '"') = true := by decide
    have hs : ∀ c ∈ s, (c != '"') = true := fun c hc => bne_iff_ne.mpr fun h => hs (h ▸ hc)
    have hm : ∀ c ∈ m, (c != '"') = true := fun c hc => bne_iff_ne.mpr fun h => hm (h ▸ hc)
    exact (cut_inj hs hm hquote hquote h).1.symm
  · rintro rfl
    exact ⟨t, rfl⟩

/-! ### The stored array -/

/-- The array of names as the storage layer writes it: between brackets, each name in quotes, with
one separator between neighbours. The separator is a comma with any white space around it. -/
def storedArray (front separator back : Text) (names : List Text) : Text :=
  '[' :: (front ++ (joinWith separator (names.map quotedTag) ++ (back ++ [']'])))

theorem joinWith_quotedTag_append (separator name : Text) (names : List Text) (t : Text) :
    ∃ r, joinWith separator ((name :: names).map quotedTag) ++ t
      = '"' :: (written name ++ '"' :: r) ∧
        (names = [] → r = t) ∧
        (names ≠ [] → r = separator ++ (joinWith separator (names.map quotedTag) ++ t)) := by
  cases names with
  | nil => exact ⟨t, by simp [joinWith, quotedTag_eq], fun _ => rfl, fun h => absurd rfl h⟩
  | cons second names =>
    refine ⟨_, ?_, fun h => absurd h (List.cons_ne_nil _ _), fun _ => rfl⟩
    rw [joinWith_map_cons (List.cons_ne_nil _ _), quotedTag_eq]
    simp

/-- **Two neighbouring quotes of an array enclose a name or a separator.** -/
theorem between_joinWith_iff {separator closing : Text} (hseparator : '"' ∉ separator)
    (hclosing : '"' ∉ closing) (hm : '"' ∉ m) {names : List Text}
    (hnames : ∀ name ∈ names, '"' ∉ name) :
    Between (joinWith separator (names.map quotedTag) ++ closing) m ↔
      (∃ name ∈ names, m = written name) ∨ (2 ≤ names.length ∧ m = separator) := by
  induction names with
  | nil => simpa [joinWith] using not_between hclosing
  | cons first names ih =>
    have hfirst : '"' ∉ written first := fun h =>
      hnames first List.mem_cons_self (quote_mem_written.mp h)
    have ih := ih fun name h => hnames name (List.mem_cons_of_mem first h)
    obtain ⟨r, hr, hnil, hcons⟩ := joinWith_quotedTag_append separator first names closing
    rw [hr, between_cons_append_quote_iff hfirst hm]
    cases names with
    | nil =>
      have hlast : ¬Between ('"' :: r) m := by
        rw [hnil rfl, between_cons_quote_iff]
        rintro (⟨b, rfl⟩ | h)
        · exact hclosing (by simp)
        · exact not_between hclosing h
      simp [hlast]
    | cons second names =>
      -- Behind the first name the separator follows, up to the quote that opens the second one.
      obtain ⟨r', hr', -⟩ := joinWith_quotedTag_append separator second names closing
      have hrest : Between ('"' :: r) m ↔ m = separator ∨
          Between (joinWith separator ((second :: names).map quotedTag) ++ closing) m := by
        rw [hcons (List.cons_ne_nil _ _), hr', between_cons_append_quote_iff hseparator hm]
      rw [hrest, ih]
      simp only [List.mem_cons, exists_eq_or_imp, List.length_cons]
      constructor
      · rintro (h | h | (h | h) | ⟨-, h⟩)
        · exact Or.inl (Or.inl h)
        · exact Or.inr ⟨by omega, h⟩
        · exact Or.inl (Or.inr (Or.inl h))
        · exact Or.inl (Or.inr (Or.inr h))
        · exact Or.inr ⟨by omega, h⟩
      · rintro ((h | h | h) | ⟨-, h⟩)
        · exact Or.inl h
        · exact Or.inr (Or.inr (Or.inl (Or.inl h)))
        · exact Or.inr (Or.inr (Or.inl (Or.inr h)))
        · exact Or.inr (Or.inl h)

/-! ### Reading the stored array -/

/-- A name that the storage layer may write as it does: one without quotes and controls. -/
def IsPlain (name : Text) : Prop := ∀ c ∈ name, 0x20 ≤ c.toNat ∧ c ≠ '"'

instance (name : Text) : Decidable (IsPlain name) :=
  List.decidableBAll (fun c : Char => 0x20 ≤ c.toNat ∧ c ≠ '"') name

/-- The written form of a plain name is read as that name. -/
theorem spells_written {name : Text} (h : IsPlain name) :
    Json.Spells (written name) (name.map Char.toNat) := by
  induction name with
  | nil => exact .nil
  | cons c name ih =>
    obtain ⟨⟨hcontrol, hquote⟩, hname⟩ := List.forall_mem_cons.mp h
    cases hc : isEscaped c with
    | true =>
      rw [written_cons_of_isEscaped hc]
      refine .short ?_ (ih hname)
      rcases isEscaped_iff.mp hc with rfl | rfl <;> rfl
    | false =>
      rw [written_cons_of_not_isEscaped hc]
      refine .plain hcontrol hquote (fun hback => ?_) (ih hname)
      rw [hback] at hc
      exact absurd hc (by decide)

/-- A plain name in its written form, as a name of an array. -/
def spelledName (name after : Text) (h : IsPlain name) : Json.SpelledName where
  spelling := written name
  name := name
  after := after
  reads := ⟨_, spells_written h, Json.textOfUnits_toNat name⟩

theorem exists_row_of_quotedTags {separator closing : Text}
    (hseparator : Json.IsSpaced ',' separator) (hclosing : Json.IsSpaced ']' closing)
    (name : Text) (names : List Text) (h : ∀ m ∈ name :: names, IsPlain m) :
    ∃ xs, Json.IsRow xs ∧ xs.map Json.SpelledName.name = name :: names ∧
      Json.rowText xs = joinWith separator ((name :: names).map quotedTag) ++ closing ∧
      ∀ x ∈ xs, x.spelling = written x.name := by
  induction names generalizing name with
  | nil =>
    obtain ⟨hname, -⟩ := List.forall_mem_cons.mp h
    refine ⟨[spelledName name closing hname], .last hclosing, rfl, ?_,
      List.forall_mem_singleton.mpr rfl⟩
    simp [Json.rowText, Json.SpelledName.text, spelledName, joinWith, quotedTag_eq]
  | cons second names ih =>
    obtain ⟨hname, hrest⟩ := List.forall_mem_cons.mp h
    obtain ⟨xs, hrow, hnames, htext, hwritten⟩ := ih second hrest
    refine ⟨spelledName name separator hname :: xs, .cons hseparator hrow, ?_, ?_,
      List.forall_mem_cons.mpr ⟨rfl, hwritten⟩⟩
    · rw [List.map_cons, hnames]
      rfl
    -- The separator is what stands behind the closing quote of the name.
    obtain ⟨r, hr, -, hrest⟩ := joinWith_quotedTag_append separator name (second :: names) closing
    rw [Json.rowText_cons, htext, hr, hrest (List.cons_ne_nil _ _), Json.SpelledName.text,
      List.cons_append, List.append_assoc, List.cons_append]
    rfl

/-- **The stored array is a spelling of its names**, each of them in its written form. -/
theorem exists_spelledArray_storedArray {front separator back : Text}
    (hfront : ∀ c ∈ front, Json.isSpace c = true) (hback : ∀ c ∈ back, Json.isSpace c = true)
    (hseparator : Json.IsSpaced ',' separator) {names : List Text}
    (hnames : ∀ name ∈ names, IsPlain name) :
    ∃ a : Json.SpelledArray, a.text = storedArray front separator back names ∧ a.texts = names ∧
      ∀ x ∈ a.names, x.spelling = written x.name := by
  have hopening : Json.IsSpaced '[' ('[' :: front) :=
    ⟨[], front, rfl, List.forall_mem_nil _, hfront⟩
  have hclosing : Json.IsSpaced ']' (back ++ [']']) :=
    ⟨back, [], rfl, hback, List.forall_mem_nil _⟩
  cases names with
  | nil =>
    refine ⟨⟨_, [], .empty hopening hclosing⟩, ?_, rfl, List.forall_mem_nil _⟩
    simp [Json.SpelledArray.text, storedArray, joinWith]
  | cons name names =>
    obtain ⟨xs, hrow, hxs, htext, hwritten⟩ :=
      exists_row_of_quotedTags hseparator hclosing name names hnames
    refine ⟨⟨_, xs, .row hopening hrow⟩, ?_, hxs, hwritten⟩
    rw [Json.SpelledArray.text, htext, storedArray, List.cons_append]

/-! ### Searching the stored array -/

theorem isInert_of_isSpace {c : Char} (h : Json.isSpace c = true) : IsInert c := by
  refine isInert_of_delimiter ?_
  rcases Json.isSpace_iff.mp h with rfl | rfl | rfl | rfl <;> decide

/-- White space of JSON is written as it is and is no quote. -/
theorem isSpace_cases {c : Char} (h : Json.isSpace c = true) : isEscaped c = false ∧ c ≠ '"' := by
  rcases Json.isSpace_iff.mp h with rfl | rfl | rfl | rfl <;> decide

theorem fold_separator {separator : Text} (h : Json.IsSpaced ',' separator)
    (comparison : Comparison) : fold comparison separator = separator := by
  refine fold_eq_self_of_inert comparison fun c hc => ?_
  rcases h.mem_cases hc with rfl | hc
  · exact isInert_comma
  · exact isInert_of_isSpace hc

theorem written_separator {separator : Text} (h : Json.IsSpaced ',' separator) :
    written separator = separator := by
  refine written_eq_self fun c hc => ?_
  rcases h.mem_cases hc with rfl | hc
  · decide
  · exact (isSpace_cases hc).1

theorem quote_not_mem_separator {separator : Text} (h : Json.IsSpaced ',' separator) :
    '"' ∉ separator := by
  intro hc
  rcases h.mem_cases hc with hc | hc
  · exact absurd hc (by decide)
  · exact (isSpace_cases hc).2 rfl

/-- A search for a tag without a quote looks at what stands between two neighbouring quotes. -/
theorem occursIn_quotedTag_iff_between (comparison : Comparison) (ht : '"' ∉ t) (s : Text) :
    occursIn (fold comparison (quotedTag t)) (fold comparison s) = true ↔
      ∃ m, '"' ∉ m ∧ Between s m ∧ fold comparison m = written (fold comparison t) := by
  rw [occursIn_quotedTag_iff]
  constructor
  · rintro ⟨a, m, b, hs, hm⟩
    refine ⟨m, fun hquote => ?_, ⟨a, b, hs⟩, hm⟩
    have hfold := (mem_fold_iff isInert_quote comparison).mpr hquote
    rw [hm, quote_mem_written, mem_fold_iff isInert_quote] at hfold
    exact ht hfold
  · rintro ⟨m, -, ⟨a, b, hs⟩, hm⟩
    exact ⟨a, m, b, hs, hm⟩

theorem occursIn_storedArray_iff (comparison : Comparison) {front separator back : Text}
    (hfront : ∀ c ∈ front, Json.isSpace c = true) (hback : ∀ c ∈ back, Json.isSpace c = true)
    (hseparator : Json.IsSpaced ',' separator) {names : List Text}
    (hnames : ∀ name ∈ names, '"' ∉ name) (ht : '"' ∉ t) :
    occursIn (fold comparison (quotedTag t))
        (fold comparison (storedArray front separator back names)) = true ↔
      (∃ name ∈ names, fold comparison name = fold comparison t) ∨
        (2 ≤ names.length ∧ fold comparison t = separator) := by
  have hopening : '"' ∉ '[' :: front := by
    intro h
    rcases List.mem_cons.mp h with h | h
    · exact absurd h (by decide)
    · exact (isSpace_cases (hfront _ h)).2 rfl
  have hclosing : '"' ∉ back ++ [']'] := by
    intro h
    rcases List.mem_append.mp h with h | h
    · exact (isSpace_cases (hback _ h)).2 rfl
    · exact absurd (List.mem_singleton.mp h) (by decide)
  have hbetween : ∀ m, '"' ∉ m → (Between (storedArray front separator back names) m ↔
      (∃ name ∈ names, m = written name) ∨ (2 ≤ names.length ∧ m = separator)) := by
    intro m hm
    rw [storedArray, ← List.cons_append, between_append_iff hopening,
      between_joinWith_iff (quote_not_mem_separator hseparator) hclosing hm hnames]
  rw [occursIn_quotedTag_iff_between comparison ht]
  constructor
  · rintro ⟨m, hquote, hm, hfold⟩
    rcases (hbetween m hquote).mp hm with ⟨name, hname, rfl⟩ | ⟨hlength, rfl⟩
    · rw [fold_written] at hfold
      exact Or.inl ⟨name, hname, written_injective hfold⟩
    · rw [fold_separator hseparator, ← written_separator hseparator] at hfold
      exact Or.inr ⟨hlength, (written_injective hfold).symm⟩
  · rintro (⟨name, hname, hfold⟩ | ⟨hlength, hfold⟩)
    · have hquote : '"' ∉ written name := fun h => hnames name hname (quote_mem_written.mp h)
      refine ⟨written name, hquote, (hbetween _ hquote).mpr (Or.inl ⟨name, hname, rfl⟩), ?_⟩
      rw [fold_written, hfold]
    · refine ⟨separator, (quote_not_mem_separator hseparator),
        (hbetween _ (quote_not_mem_separator hseparator)).mpr (Or.inr ⟨hlength, rfl⟩), ?_⟩
      rw [fold_separator hseparator, hfold, written_separator hseparator]

end Text

/-! ### What a filter of tags decides -/

open Text

/-- A filter that looks for a text in the tags of a note looks at the text of the array. -/
theorem contains_tags_holds_iff {n : Note} {s operand : Text} (hn : n.tags = some s)
    (comparison : Comparison) :
    (Predicate.contains NoteField.tags (.of operand comparison)).holds n = true ↔
      occursIn (operand.fold comparison) (s.fold comparison) = true := by
  simp [Predicate.holds, Searchable.text?, hn, Pattern.foundIn]

/-- **What a search for a tag decides on a stored array**, whichever of the two filters asks: it
finds the names that have the tag's fold, and it finds the separator. -/
theorem storedArray_holds_iff {front separator back : Text}
    (hfront : ∀ c ∈ front, Json.isSpace c = true) (hback : ∀ c ∈ back, Json.isSpace c = true)
    (hseparator : Json.IsSpaced ',' separator) {names : List Text}
    (hnames : ∀ name ∈ names, '"' ∉ name) {t : Text} (ht : '"' ∉ t) {n : Note}
    (hn : n.tags = some (storedArray front separator back names)) :
    ((tagFilter t).holds n = true ↔
      (∃ name ∈ names, name.fold .caseless = t.fold .caseless) ∨
        (2 ≤ names.length ∧ t.fold .caseless = separator)) ∧
    (t ≠ [] → ((Token.tag t).noteFilter.holds n = true ↔
      (∃ name ∈ names, name.fold .loose = t.fold .loose) ∨
        (2 ≤ names.length ∧ t.fold .loose = separator))) := by
  refine ⟨?_, fun hne => ?_⟩
  · rw [tagFilter, contains_tags_holds_iff hn]
    exact occursIn_storedArray_iff .caseless hfront hback hseparator hnames ht
  · have hfilter : (Token.tag t).noteFilter = .contains .tags (.of t.quotedTag .loose) := by
      simp [Token.noteFilter, hne]
    rw [hfilter, contains_tags_holds_iff hn]
    exact occursIn_storedArray_iff .loose hfront hback hseparator hnames ht

/-- Both filters find the comma between two names, which is no tag of the note. -/
theorem storedArray_holds_comma :
    (tagFilter [',']).holds
        (⟨none, none, false, none, some "[\"milk\",\"home\"]".toList⟩ : Note) = true ∧
    (Token.tag [',']).noteFilter.holds
        (⟨none, none, false, none, some "[\"milk\",\"home\"]".toList⟩ : Note) = true := by
  have hspace : ∀ c ∈ ([] : Text), Json.isSpace c = true := List.forall_mem_nil _
  have hseparator : Json.IsSpaced ',' [','] := ⟨[], [], rfl, hspace, hspace⟩
  have h := @storedArray_holds_iff [] [','] [] hspace hspace hseparator
    ["milk".toList, "home".toList] (by decide) [','] (by decide)
    ⟨none, none, false, none, some "[\"milk\",\"home\"]".toList⟩ rfl
  exact ⟨h.1.mpr (Or.inr ⟨by decide, fold_separator hseparator _⟩),
    (h.2 (by decide)).mpr (Or.inr ⟨by decide, fold_separator hseparator _⟩)⟩

end NoteSieve
