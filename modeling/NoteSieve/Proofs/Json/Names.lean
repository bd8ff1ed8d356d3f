import NoteSieve.Proofs.Json.Grammar

/-!
# The spellings of an array of texts

The tags of a note are the text of an array of names. What a search finds in that text depends on
how each name is spelled and on what stands between two of them, and this is all that is left of the
grammar of JSON when every element is a string: names in a row, each with what stands behind it
(`NoteSieve.Json.SpelledArray`).

**The texts that read as an array of texts are those that are put together from such pieces**
(`NoteSieve.Json.readsAs_iff`). Both directions follow from the grammar, and they differ from it in
who has the white space: a spelling of an element has it on both sides, while in a row the white
space in front of a name belongs to whatever stands there.
-/

namespace NoteSieve.Json

open Text

variable {s space : Text} {names : List Text}

/-! ### Reading an array of texts -/

/-- A text reads as an array of texts. -/
def ReadsAs (s : Text) (names : List Text) : Prop :=
  ∃ value, read? s = some value ∧ value.texts? = some names

theorem ReadsAs.unique {names names' : List Text} (h : ReadsAs s names) (h' : ReadsAs s names') :
    names = names' := by
  obtain ⟨value, hread, hnames⟩ := h
  obtain ⟨value', hread', hnames'⟩ := h'
  obtain rfl := Option.some.inj (hread.symm.trans hread')
  exact Option.some.inj (hnames.symm.trans hnames')

theorem text?_eq_some_iff {value : Json} {name : Text} :
    value.text? = some name ↔ value = ofText name := by
  cases value <;> simp [text?, ofText]

theorem mapM_text?_eq_some_iff {elements : List Json} {names : List Text} :
    elements.mapM text? = some names ↔ elements = names.map ofText := by
  induction elements generalizing names with
  | nil => cases names <;> simp
  | cons element elements ih =>
    cases names <;> simp [List.mapM_cons, Option.bind_eq_some_iff, text?_eq_some_iff, ih]

theorem texts?_eq_some_iff {value : Json} {names : List Text} :
    value.texts? = some names ↔ value = .array (names.map ofText) := by
  cases value <;> simp [texts?, mapM_text?_eq_some_iff]

/-- An array of texts is read from the spellings of the array of these strings. -/
theorem readsAs_iff_spelled : ReadsAs s names ↔ Spelled s (.array (names.map ofText)) := by
  constructor
  · rintro ⟨value, hread, hnames⟩
    obtain rfl := texts?_eq_some_iff.mp hnames
    exact read?_eq_some_iff.mp hread
  · intro h
    exact ⟨_, read?_eq_some_iff.mpr h, texts?_eq_some_iff.mpr rfl⟩

/-! ### The pieces of an array -/

/-- A character with any white space around it. -/
def IsSpaced (c : Char) (s : Text) : Prop :=
  ∃ before after, s = before ++ c :: after ∧
    (∀ d ∈ before, isSpace d = true) ∧ ∀ d ∈ after, isSpace d = true

theorem IsSpaced.mem_cases {c d : Char} (h : IsSpaced c s) (hd : d ∈ s) :
    d = c ∨ isSpace d = true := by
  obtain ⟨before, after, rfl, hbefore, hafter⟩ := h
  rcases List.mem_append.mp hd with hd | hd
  · exact Or.inr (hbefore d hd)
  · exact (List.mem_cons.mp hd).imp_right (hafter d)

/-- One name of an array: what stands between its quotes, the text that this is read as, and what
stands behind its closing quote, up to the next name or to the end. -/
structure SpelledName where
  /-- What stands between the quotes. -/
  spelling : Text
  /-- The text it is read as. -/
  name : Text
  /-- What stands behind the closing quote. -/
  after : Text
  /-- It is read so. -/
  reads : ∃ units, Spells spelling units ∧ textOfUnits units = some name

/-- The text of a name, with what stands behind it. -/
def SpelledName.text (x : SpelledName) : Text := '"' :: (x.spelling ++ '"' :: x.after)

/-- The text of names in a row. -/
def rowText (xs : List SpelledName) : Text := xs.flatMap SpelledName.text

@[simp]
theorem rowText_nil : rowText [] = [] := rfl

theorem rowText_cons (x : SpelledName) (xs : List SpelledName) :
    rowText (x :: xs) = x.text ++ rowText xs := List.flatMap_cons

theorem rowText_append (xs ys : List SpelledName) :
    rowText (xs ++ ys) = rowText xs ++ rowText ys := List.flatMap_append

/-- Names with a comma behind each but the last one, and the closing bracket behind that. -/
inductive IsRow : List SpelledName → Prop
  | last {x : SpelledName} : IsSpaced ']' x.after → IsRow [x]
  | cons {x : SpelledName} {xs : List SpelledName} :
      IsSpaced ',' x.after → IsRow xs → IsRow (x :: xs)

/-- What stands in front of the names of an array: the opening bracket, and the closing one if there
are none. -/
inductive IsFront : Text → List SpelledName → Prop
  | empty {opening closing : Text} :
      IsSpaced '[' opening → IsSpaced ']' closing → IsFront (opening ++ closing) []
  | row {opening : Text} {xs : List SpelledName} :
      IsSpaced '[' opening → IsRow xs → IsFront opening xs

/-- **A spelling of an array of texts**, taken to pieces. -/
structure SpelledArray where
  /-- What stands in front of the first name. -/
  front : Text
  /-- The names in order. -/
  names : List SpelledName
  /-- The pieces are those of an array. -/
  isFront : IsFront front names

namespace SpelledArray

/-- The text of the array. -/
def text (a : SpelledArray) : Text := a.front ++ rowText a.names

/-- The texts that the names are read as. -/
def texts (a : SpelledArray) : List Text := a.names.map SpelledName.name

end SpelledArray

/-! ### From the grammar to the pieces -/

/-- A name with what stands behind it, up to the next name or to the end. -/
theorem exists_name_of_spelled {name : Text} (h : Spelled s (ofText name)) (c : Char)
    (hspace : IsWhite space) : ∃ (front : Text) (x : SpelledName), IsWhite front ∧ x.name = name ∧
      IsSpaced c x.after ∧ s ++ c :: space = front ++ x.text := by
  obtain ⟨before, spelling, units, after, rfl, hbefore, hafter, hspells, hname⟩ :=
    exists_spells_of_spelled h
  refine ⟨before, ⟨spelling, name, after ++ c :: space, units, hspells, hname⟩, hbefore, rfl,
    ⟨after, space, rfl, hafter, hspace⟩, ?_⟩
  simp [SpelledName.text]

/-- The elements of an array are names in a row. -/
theorem exists_row_of_parts {parts : List (Text × Json)} (hne : parts ≠ [])
    (h : ∀ p ∈ parts, Spelled p.1 p.2) (hnames : parts.map Prod.snd = names.map ofText)
    (hspace : IsWhite space) : ∃ (front : Text) (xs : List SpelledName), IsWhite front ∧ IsRow xs ∧
      xs.map SpelledName.name = names ∧
      joinWith [','] (parts.map Prod.fst) ++ ']' :: space = front ++ rowText xs := by
  induction parts generalizing names with
  | nil => exact absurd rfl hne
  | cons p parts ih =>
    obtain ⟨hp, hparts⟩ := List.forall_mem_cons.mp h
    obtain ⟨name, names, rfl, hname, hnames⟩ := List.map_eq_cons_iff.mp hnames.symm
    rw [← hname] at hp
    by_cases hnil : parts = []
    · subst hnil
      obtain rfl := List.map_eq_nil_iff.mp hnames
      obtain ⟨front, x, hfront, rfl, hafter, hs⟩ := exists_name_of_spelled hp ']' hspace
      exact ⟨front, [x], hfront, .last hafter, rfl, by simpa [joinWith, rowText_cons] using hs⟩
    · -- The white space in front of the rest goes to the name before it, behind its comma.
      obtain ⟨between, xs, hbetween, hrow, rfl, hrest⟩ := ih hnil hparts hnames.symm
      obtain ⟨front, x, hfront, rfl, hafter, hs⟩ := exists_name_of_spelled hp ',' hbetween
      refine ⟨front, x :: xs, hfront, .cons hafter hrow, rfl, ?_⟩
      rw [joinWith_map_cons hnil, List.append_assoc, List.append_assoc, hrest, rowText_cons,
        ← List.append_assoc front, ← hs]
      simp

theorem exists_array_of_readsAs (h : ReadsAs s names) :
    ∃ a : SpelledArray, a.text = s ∧ a.texts = names := by
  obtain ⟨before, inner, after, rfl, hbefore, hafter, hinner⟩ :=
    exists_parts_of_spelled (readsAs_iff_spelled.mp h)
  rcases hinner with ⟨hinner, hnil⟩ | ⟨parts, hne, hparts, rfl, helements⟩
  · obtain rfl := List.map_eq_nil_iff.mp hnil
    refine ⟨⟨(before ++ ['[']) ++ (inner ++ ']' :: after), [], .empty ⟨before, [], rfl, hbefore,
      isWhite_nil⟩ ⟨inner, after, rfl, hinner, hafter⟩⟩, ?_, rfl⟩
    simp [SpelledArray.text]
  · obtain ⟨front, xs, hfront, hrow, rfl, hs⟩ := exists_row_of_parts hne hparts helements.symm hafter
    refine ⟨⟨before ++ '[' :: front, xs, .row ⟨before, front, rfl, hbefore, hfront⟩ hrow⟩, ?_, rfl⟩
    simp [SpelledArray.text, hs]

/-! ### From the pieces to the grammar -/

variable {xs : List SpelledName}

theorem SpelledName.spelled (x : SpelledName) :
    Spelled ('"' :: (x.spelling ++ ['"'])) (ofText x.name) := by
  obtain ⟨units, hspells, hname⟩ := x.reads
  have hspelled := Spelled.string hspells
  rwa [hname] at hspelled

/-- Names in a row are the elements of an array. -/
theorem IsRow.exists_parts (h : IsRow xs) (hspace : IsWhite space) :
    ∃ (parts : List (Text × Json)) (after : Text), parts ≠ [] ∧ (∀ p ∈ parts, Spelled p.1 p.2) ∧
      IsWhite after ∧ parts.map Prod.snd = (xs.map SpelledName.name).map ofText ∧
      space ++ rowText xs = joinWith [','] (parts.map Prod.fst) ++ ']' :: after := by
  induction h generalizing space with
  | @last x hafter =>
    obtain ⟨before, after, hx, hbefore, hafter⟩ := hafter
    refine ⟨[(space ++ ('"' :: (x.spelling ++ ['"']) ++ before), ofText x.name)], after,
      List.cons_ne_nil _ _, List.forall_mem_singleton.mpr (.spaced hspace x.spelled hbefore), hafter,
      rfl, ?_⟩
    simp [joinWith, rowText_cons, SpelledName.text, hx]
  | @cons x xs hafter _ ih =>
    obtain ⟨before, between, hx, hbefore, hbetween⟩ := hafter
    obtain ⟨parts, after, hne, hparts, hafter, hnames, hrest⟩ := ih hbetween
    refine ⟨(space ++ ('"' :: (x.spelling ++ ['"']) ++ before), ofText x.name) :: parts, after,
      List.cons_ne_nil _ _,
      List.forall_mem_cons.mpr ⟨.spaced hspace x.spelled hbefore, hparts⟩, hafter, ?_, ?_⟩
    · rw [List.map_cons, hnames]
      rfl
    · rw [joinWith_map_cons hne]
      simp [rowText_cons, SpelledName.text, hx, hrest]

theorem SpelledArray.readsAs (a : SpelledArray) : ReadsAs a.text a.texts := by
  rw [readsAs_iff_spelled]
  obtain ⟨front, names, h⟩ := a
  cases h with
  | empty hopening hclosing =>
    obtain ⟨before, space, rfl, hbefore, hspace⟩ := hopening
    obtain ⟨space', after, rfl, hspace', hafter⟩ := hclosing
    have hempty := Spelled.spaced hbefore (.emptyArray (IsWhite.append hspace hspace')) hafter
    simpa [SpelledArray.text, SpelledArray.texts] using hempty
  | row hopening hrow =>
    obtain ⟨before, space, rfl, hbefore, hspace⟩ := hopening
    obtain ⟨parts, after, hne, hparts, hafter, hnames, hs⟩ := hrow.exists_parts hspace
    have harray := Spelled.spaced hbefore (.array hne hparts) hafter
    rw [hnames] at harray
    simpa [SpelledArray.text, SpelledArray.texts, hs] using harray

/-- **The texts that read as an array of texts are those that the grammar spells.** -/
theorem readsAs_iff :
    ReadsAs s names ↔ ∃ a : SpelledArray, a.text = s ∧ a.texts = names := by
  constructor
  · exact exists_array_of_readsAs
  · rintro ⟨a, rfl, rfl⟩
    exact a.readsAs

end NoteSieve.Json
