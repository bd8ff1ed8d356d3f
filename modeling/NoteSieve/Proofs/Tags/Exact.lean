import NoteSieve.Proofs.Json.Names
import NoteSieve.Proofs.Tags.Stored

/-!
# Searching an array in any spelling

A search for a tag looks for the written form of the tag between two quotes
(`NoteSieve.Text.occursIn_quotedTag_iff`), and the array of a note may be any that reads as a list
of texts. What is found is a whole name only if it is spelled in its written form: **no other
spelling of a name has the fold of a written text**
(`NoteSieve.Json.SpelledName.spelling_eq_written`). What stands between two quotes that are not
those of a name is found as well.

So a search is exact on some arrays and not on others, and `NoteSieve.noteFilter_exact_iff` says on
which: a tag is overlooked when its names are all spelled otherwise, and one is made up when its
written form stands between two quotes that do not belong to a name.
-/

namespace NoteSieve

namespace Text

open Unicode

/-! ### Spellings other than the written one -/

/-- The characters that are short for another one behind a backslash, and the `u` of a code. -/
def escapeLetters : List Char := ['"', 'b', 'f', 'n', 'r', 't', 'u']

theorem escapeLetters_cases {c : Char} (h : c ∈ escapeLetters) :
    isEscaped c = false ∧ (c = '"' ∨ c.toNat ∈ letterCodePoints) := by
  simp only [escapeLetters, List.mem_cons, List.not_mem_nil, or_false] at h
  rcases h with rfl | rfl | rfl | rfl | rfl | rfl | rfl <;> exact ⟨by decide, by decide⟩

/-- None of them is dropped by a fold. -/
theorem fold_escapeLetter_ne_nil {c : Char} (h : c ∈ escapeLetters) (s : Text) :
    fold .loose (c :: s) ≠ [] := by
  rcases (escapeLetters_cases h).2 with rfl | hletter
  · rw [fold_cons isInert_quote]
    exact List.cons_ne_nil _ _
  · exact List.ne_nil_of_mem (letter_mem_fold hletter s)

/-- A text that goes on otherwise than a written one: with a bare slash, or with a backslash that
has no slash and no backslash behind it. -/
def IsForeign (z : Text) : Prop :=
  (∃ r, z = '/' :: r) ∨ ∃ c ∈ escapeLetters, ∃ r, z = '\\' :: c :: r

/-- **A written text does not go on otherwise**, not even under a fold. -/
theorem IsForeign.fold_append_ne {z : Text} (h : IsForeign z) (s t : Text) :
    fold .loose (written s ++ z) ≠ written t := by
  intro heq
  rcases h with ⟨r, rfl⟩ | ⟨c, hc, r, rfl⟩
  · rw [fold_append_cons isInert_slash, fold_written] at heq
    obtain ⟨t', -, hrest⟩ := written_eq_append heq.symm
    rcases written_eq_cons hrest.symm with ⟨hback, -⟩ | ⟨hslash, -⟩
    · exact absurd hback (by decide)
    · exact absurd hslash (by decide)
  · rw [fold_append_cons isInert_backslash, fold_written] at heq
    obtain ⟨t', -, hrest⟩ := written_eq_append heq.symm
    rcases written_eq_cons hrest.symm with ⟨-, d, t'', hd, -, hfold⟩ | ⟨hback, -⟩
    · -- Behind the backslash the fold has an escaped character, so the text has one, and all that
      -- stands before it vanishes in the fold. But `c` does not, and is not escaped.
      obtain ⟨a, b, hr, ha, -⟩ := exists_cut_of_fold_eq (isInert_of_isEscaped hd)
        (show fold .loose (c :: r) = [] ++ d :: written t'' from hfold)
      cases a with
      | nil =>
        obtain ⟨rfl, -⟩ := List.cons.inj hr
        exact Bool.noConfusion (hd.symm.trans (escapeLetters_cases hc).1)
      | cons c' a =>
        obtain ⟨rfl, -⟩ := List.cons.inj hr
        exact absurd ha (fold_escapeLetter_ne_nil hc a)
    · exact absurd hback (by decide)

end Text

namespace Json

open Text

theorem shortEscape?_cases {c d : Char} (h : shortEscape? c = some d) :
    (isEscaped c = true ∧ d = c) ∨ c ∈ escapeLetters := by
  unfold shortEscape? at h
  split at h
  case h_2 | h_3 => exact Or.inl ⟨by decide, (Option.some.inj h).symm⟩
  case h_9 => exact absurd h (by simp)
  all_goals exact Or.inr (by decide)

/-- What stands between the quotes of a string is the written form of what it is read as, or it goes
on otherwise somewhere. -/
theorem Spells.cases_written {s : Text} {units : List Nat} (h : Spells s units) :
    (∃ name : Text, s = written name ∧ units = name.map Char.toNat) ∨
      ∃ name z, s = written name ++ z ∧ IsForeign z := by
  -- The first character that is spelled otherwise begins `z`, and from there on nothing is asked.
  induction h with
  | nil => exact Or.inl ⟨[], rfl, rfl⟩
  | @plain c s units _ _ hback _ ih =>
    by_cases hslash : c = '/'
    · exact Or.inr ⟨[], c :: s, rfl, Or.inl ⟨s, by rw [hslash]⟩⟩
    · have hc : isEscaped c = false := by
        rw [← Bool.not_eq_true, isEscaped_iff, not_or]
        exact ⟨hback, hslash⟩
      rcases ih with ⟨name, rfl, rfl⟩ | ⟨name, z, rfl, hz⟩
      · exact Or.inl ⟨c :: name, (written_cons_of_not_isEscaped hc name).symm, rfl⟩
      · exact Or.inr ⟨c :: name, z, by rw [written_cons_of_not_isEscaped hc, List.cons_append], hz⟩
  | @short c d s units hd _ ih =>
    rcases shortEscape?_cases hd with ⟨hc, rfl⟩ | hc
    · rcases ih with ⟨name, rfl, rfl⟩ | ⟨name, z, rfl, hz⟩
      · exact Or.inl ⟨d :: name, (written_cons_of_isEscaped hc name).symm, rfl⟩
      · refine Or.inr ⟨d :: name, z, ?_, hz⟩
        rw [written_cons_of_isEscaped hc, List.cons_append, List.cons_append]
    · exact Or.inr ⟨[], '\\' :: c :: s, rfl, Or.inr ⟨c, hc, s, rfl⟩⟩
  | code => exact Or.inr ⟨[], _, rfl, Or.inr ⟨'u', by decide, _, rfl⟩⟩

/-- **No other spelling of a name has the fold of a written text.** -/
theorem SpelledName.spelling_eq_written {x : SpelledName} {t : Text}
    (h : fold .loose x.spelling = written t) :
    x.spelling = written x.name ∧ fold .loose x.name = t := by
  obtain ⟨units, hspells, hname⟩ := x.reads
  rcases hspells.cases_written with ⟨name, hs, rfl⟩ | ⟨name, z, hs, hz⟩
  · obtain rfl : x.name = name := Option.some.inj (hname.symm.trans (textOfUnits_toNat name))
    rw [hs, fold_written] at h
    exact ⟨hs, written_injective h⟩
  · rw [hs] at h
    exact absurd h (hz.fold_append_ne name t)

/-! ### What is found in an array -/

namespace SpelledArray

variable (a : SpelledArray) (t : Text)

/-- Behind a part of an array, a name of it stands between two quotes. -/
def IsNameAt (front m : Text) : Prop :=
  ∃ xs x ys, a.names = xs ++ x :: ys ∧ front = a.front ++ rowText xs ∧ m = x.spelling

/-- Some name with the fold of a tag is spelled in its written form. -/
def Shows : Prop :=
  ∃ x ∈ a.names, x.spelling = written x.name ∧ x.name.fold .loose = t.fold .loose

/-- Something with the fold of a written tag stands between two quotes that are not those of a
name. -/
def Strays : Prop :=
  ∃ front m rest : Text, a.text = front ++ '"' :: (m ++ '"' :: rest) ∧
    m.fold .loose = written (t.fold .loose) ∧ ¬a.IsNameAt front m

theorem text_eq_append {xs ys : List SpelledName} {x : SpelledName}
    (h : a.names = xs ++ x :: ys) :
    a.text = (a.front ++ rowText xs) ++ '"' :: (x.spelling ++ '"' :: (x.after ++ rowText ys)) := by
  rw [text, h, rowText_append, rowText_cons, SpelledName.text]
  simp

/-- **What a search finds in an array.** -/
theorem occursIn_quotedTag_iff :
    occursIn (t.quotedTag.fold .loose) (a.text.fold .loose) = true ↔ a.Shows t ∨ a.Strays t := by
  rw [Text.occursIn_quotedTag_iff]
  constructor
  · rintro ⟨front, m, rest, htext, hm⟩
    by_cases hname : a.IsNameAt front m
    · obtain ⟨xs, x, ys, hnames, -, rfl⟩ := hname
      obtain ⟨hwritten, hfold⟩ := SpelledName.spelling_eq_written hm
      exact Or.inl ⟨x, by simp [hnames], hwritten, hfold⟩
    · exact Or.inr ⟨front, m, rest, htext, hm, hname⟩
  · rintro (⟨x, hx, hwritten, hfold⟩ | ⟨front, m, rest, htext, hm, -⟩)
    · obtain ⟨xs, ys, hnames⟩ := List.append_of_mem hx
      exact ⟨_, _, _, a.text_eq_append hnames, by rw [hwritten, fold_written, hfold]⟩
    · exact ⟨front, m, rest, htext, hm⟩

end SpelledArray

end Json

/-! ### When a search is exact -/

open Text Unicode

/-- Some of a note's tags has the fold of a tag. -/
def HasTag (names : List Text) (t : Text) : Prop :=
  ∃ name ∈ names, name.fold .loose = t.fold .loose

theorem Query.noteFilter_holds_iff {q : Query} {t s : Text} {n : Note} (hq : q.tokens = [.tag t])
    (ht : t ≠ []) (hn : n.tags = some s) :
    q.noteFilter.holds n = true ↔ occursIn (t.quotedTag.fold .loose) (s.fold .loose) = true := by
  have hfilter : q.noteFilter = .all [.contains .tags (.of t.quotedTag .loose)] := by
    simp [Query.noteFilter, Query.isEmpty, hq, Token.noteFilter_tag ht]
  rw [hfilter, ← contains_tags_holds_iff hn .loose]
  simp

/-- **When a search for a tag is exact.** Let the tags of a note read as an array of texts, and let
a query be one word that asks for a tag. The note passes exactly if it has the tag when two
conditions are met: a tag it has is spelled in its written form or found elsewhere, and none is
found elsewhere that it has not. -/
theorem noteFilter_exact_iff {ops : Operators} {q s t : Text} {names : List Text} {n : Note}
    (hs : Json.ReadsAs s names) (hq : (Query.parse ops q).tokens = [.tag t]) (ht : t ≠ [])
    (hn : n.tags = some s) :
    (∃ a : Json.SpelledArray, a.text = s ∧ a.texts = names) ∧
    ∀ a : Json.SpelledArray, a.text = s →
      (((Query.parse ops q).noteFilter.holds n = true ↔ HasTag names t) ↔
        (HasTag names t → a.Shows t ∨ a.Strays t) ∧ (a.Strays t → HasTag names t)) := by
  refine ⟨Json.readsAs_iff.mp hs, ?_⟩
  rintro a rfl
  obtain rfl : a.texts = names := a.readsAs.unique hs
  have hshows : a.Shows t → HasTag a.texts t := by
    rintro ⟨x, hx, -, hfold⟩
    exact ⟨x.name, List.mem_map_of_mem hx, hfold⟩
  rw [Query.noteFilter_holds_iff hq ht hn, a.occursIn_quotedTag_iff t]
  constructor
  · exact fun h => ⟨h.mpr, fun hstrays => h.mp (Or.inr hstrays)⟩
  · rintro ⟨hmisses, hstrays⟩
    exact ⟨fun h => h.elim hshows hstrays, hmisses⟩

/-- A stored array with the tag on it is searched exactly, and the tag is found. -/
theorem noteFilter_exact_milk :
    Json.ReadsAs "[\"milk\"]".toList ["milk".toList] ∧
    (Query.parse .default "TAG:milk".toList).tokens = [.tag "milk".toList] ∧
    (Query.parse .default "TAG:milk".toList).noteFilter.holds
      (⟨none, none, false, none, some "[\"milk\"]".toList⟩ : Note) = true := by
  have hspace : ∀ c ∈ ([] : Text), Json.isSpace c = true := List.forall_mem_nil _
  obtain ⟨a, htext, hnames, hwritten⟩ := @exists_spelledArray_storedArray [] [','] []
    hspace hspace ⟨[], [], rfl, hspace, hspace⟩ ["milk".toList] (by decide)
  have hs : Json.ReadsAs "[\"milk\"]".toList ["milk".toList] :=
    Json.readsAs_iff.mpr ⟨a, htext, hnames⟩
  have hq : (Query.parse .default "TAG:milk".toList).tokens = [.tag "milk".toList] := by decide
  have htag : HasTag ["milk".toList] "milk".toList :=
    ⟨"milk".toList, List.mem_singleton_self _, rfl⟩
  have hshows : HasTag ["milk".toList] "milk".toList → a.Shows "milk".toList := by
    rintro ⟨name, hname, hfold⟩
    obtain ⟨x, hx, rfl⟩ := List.mem_map.mp (hnames ▸ hname)
    exact ⟨x, hx, hwritten x hx, hfold⟩
  refine ⟨hs, hq, (((noteFilter_exact_iff hs hq (by decide) rfl).2 a htext).mpr ?_).mpr htag⟩
  exact ⟨fun h => Or.inl (hshows h), fun _ => htag⟩

/-- **The comma between two names is taken for a tag.** -/
theorem noteFilter_not_exact_comma :
    Json.ReadsAs "[\"a\",\"b\"]".toList [['a'], ['b']] ∧
    (Query.parse .default "tag:,".toList).tokens = [.tag [',']] ∧
    ¬((Query.parse .default "tag:,".toList).noteFilter.holds
        (⟨none, none, false, none, some "[\"a\",\"b\"]".toList⟩ : Note) = true ↔
      HasTag [['a'], ['b']] [',']) := by
  have hspace : ∀ c ∈ ([] : Text), Json.isSpace c = true := List.forall_mem_nil _
  obtain ⟨a, htext, hnames, -⟩ := @exists_spelledArray_storedArray [] [','] []
    hspace hspace ⟨[], [], rfl, hspace, hspace⟩ [['a'], ['b']] (by decide)
  have hq : (Query.parse .default "tag:,".toList).tokens = [.tag [',']] := by decide
  refine ⟨Json.readsAs_iff.mpr ⟨a, htext, hnames⟩, hq, fun hiff => ?_⟩
  have hcomma : fold .loose [','] = [','] :=
    fold_eq_self_of_inert .loose (List.forall_mem_singleton.mpr isInert_comma)
  have hfound := (Text.occursIn_quotedTag_iff .loose [','] "[\"a\",\"b\"]".toList).mpr
    ⟨"[\"a".toList, [','], "b\"]".toList, by decide, by rw [hcomma]; rfl⟩
  obtain ⟨name, hname, hfold⟩ :=
    hiff.mp ((Query.noteFilter_holds_iff hq (List.cons_ne_nil _ _) rfl).mpr hfound)
  have hmem : ',' ∈ name := (mem_fold_iff isInert_comma .loose).mp (by rw [hfold, hcomma]; decide)
  have hcases : name = ['a'] ∨ name = ['b'] := by simpa using hname
  rcases hcases with rfl | rfl <;> exact absurd hmem (by decide)

end NoteSieve
