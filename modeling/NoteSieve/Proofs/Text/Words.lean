import Mathlib.Data.List.DropRight
import NoteSieve.Text.Words

/-!
# Cutting a text into words

The two notions of a word of `NoteSieve.Text.Words` are both cuts of the text at a class of
characters (`NoteSieve.Text.fragments`), and a cut is the library's `List.splitOnP`
(`NoteSieve.Text.fragments_eq_splitOnP`). So what a search field does to a text is told by two
facts.

* **The words of a text are counted apart on both sides of a blank**
  (`NoteSieve.Text.words_append_cons`): what stands behind a blank never changes the words before
  it.
* **Another last word leaves the text in front of it where it was**
  (`NoteSieve.Text.replaceLastWord_eq`): everything up to the last blank of a line is kept, with
  each such blank turned into a space, and the rest is replaced. The rest is what the field takes
  for the word being typed (`NoteSieve.Text.typedPart`); as a line break is no blank of a line, it
  can hold several words, or none.
-/

namespace NoteSieve.Text

open Unicode

variable {p : Char → Bool} {s t : Text} {c : Char}

/-! ### Fragments -/

theorem fragments_eq_splitOnP (p : Char → Bool) (s : Text) : fragments p s = s.splitOnP p := by
  induction s with
  | nil => rfl
  | cons c s ih =>
    rw [fragments, List.splitOnP_cons_eq_if_modifyHead, ih]
    cases h : s.splitOnP p with
    | nil => exact absurd h (List.splitOnP_ne_nil p s)
    | cons _ _ => rfl

theorem fragments_append_cons (hc : p c = true) (s t : Text) :
    fragments p (s ++ c :: t) = fragments p s ++ fragments p t := by
  simp only [fragments_eq_splitOnP, List.splitOnP_append_cons s t hc]

theorem fragments_eq_singleton (h : ∀ c ∈ s, p c = false) : fragments p s = [s] := by
  rw [fragments_eq_splitOnP, List.splitOnP_eq_singleton h]

/-- What does not separate goes to the first fragment of what is behind it. -/
theorem fragments_append (h : ∀ c ∈ s, p c = false) {first : Text} {rest : List Text}
    (ht : fragments p t = first :: rest) : fragments p (s ++ t) = (s ++ first) :: rest := by
  induction s with
  | nil => exact ht
  | cons c s ih =>
    obtain ⟨hc, h⟩ := List.forall_mem_cons.mp h
    rw [List.cons_append, fragments, hc, ih h]
    rfl

/-- A fragment is made of characters of the text, and none of them separates. -/
theorem mem_and_not_of_mem_fragments {fragment : Text} (h : fragment ∈ fragments p s)
    (hc : c ∈ fragment) : c ∈ s ∧ p c = false := by
  induction s generalizing fragment with
  | nil =>
    obtain rfl := List.mem_singleton.mp h
    exact absurd hc List.not_mem_nil
  | cons d s ih =>
    rw [fragments] at h
    split at h
    · rcases List.mem_cons.mp h with rfl | h
      · exact absurd hc List.not_mem_nil
      · exact (ih h hc).imp_left (List.mem_cons_of_mem d)
    · next hd =>
      obtain ⟨first, rest, hs⟩ := List.exists_cons_of_ne_nil (fragments_ne_nil p s)
      rw [hs, consFirst, List.mem_cons] at h
      rcases h with rfl | h
      · rcases List.mem_cons.mp hc with rfl | hc
        · exact ⟨List.mem_cons_self, by simpa using hd⟩
        · exact (ih (by rw [hs]; exact List.mem_cons_self) hc).imp_left (List.mem_cons_of_mem d)
      · exact (ih (by rw [hs]; exact List.mem_cons_of_mem _ h) hc).imp_left
          (List.mem_cons_of_mem d)

/-- There is one fragment more than there are separators. -/
theorem length_fragments (separator : Char) (s : Text) :
    (fragments (· == separator) s).length = s.count separator + 1 := by
  induction s with
  | nil => rfl
  | cons c s ih =>
    obtain ⟨first, rest, hs⟩ := List.exists_cons_of_ne_nil (fragments_ne_nil (· == separator) s)
    rw [fragments]
    split
    · next hc => rw [eq_of_beq hc, List.count_cons_self, List.length_cons, ih]
    · next hc => rw [List.count_cons_of_ne (by simpa using hc), ← ih, hs]; rfl

/-- What separates may be written otherwise, as long as it still separates. -/
theorem fragments_map {f : Char → Char} (hp : ∀ c, p c = true → p (f c) = true)
    (hkept : ∀ c, p c = false → f c = c) (s : Text) : fragments p (s.map f) = fragments p s := by
  induction s with
  | nil => rfl
  | cons c s ih =>
    cases hc : p c with
    | true => simp [fragments, hc, hp c hc, ih]
    | false => simp [fragments, hc, hkept c hc, ih]

/-- **Fragments joined again** give the text with every separator written as the one they are
joined with. -/
theorem joinWith_fragments (p : Char → Bool) (separator : Char) (s : Text) :
    joinWith [separator] (fragments p s) = s.map fun c => if p c then separator else c := by
  induction s with
  | nil => rfl
  | cons c s ih =>
    obtain ⟨fragment, rest, hs⟩ := List.exists_cons_of_ne_nil (fragments_ne_nil p s)
    rw [joinWith, hs] at ih
    rw [fragments, hs, List.map_cons, ← ih]
    by_cases hc : p c
    · rw [if_pos hc, if_pos hc, joinWith, List.intercalate_cons_cons, List.nil_append,
        List.singleton_append]
    · rw [if_neg hc, if_neg hc, joinWith]
      cases rest with
      | nil => simp [consFirst]
      | cons _ _ => simp only [consFirst, List.intercalate_cons_cons, List.cons_append]

theorem joinWith_cons {separator first : Text} {parts : List Text} (h : parts ≠ []) :
    joinWith separator (first :: parts) = first ++ (separator ++ joinWith separator parts) := by
  obtain ⟨second, parts, rfl⟩ := List.exists_cons_of_ne_nil h
  rw [joinWith, List.intercalate_cons_cons, List.append_assoc]
  rfl

theorem joinWith_map_cons {α : Type} {f : α → Text} {x : α} {xs : List α} (h : xs ≠ [])
    (separator : Text) : joinWith separator ((x :: xs).map f)
      = f x ++ (separator ++ joinWith separator (xs.map f)) :=
  joinWith_cons (List.map_eq_nil_iff.not.mpr h)

theorem joinWith_append {parts rest : List Text} (h : parts ≠ []) (hrest : rest ≠ [])
    (separator : Text) : joinWith separator (parts ++ rest)
      = joinWith separator parts ++ separator ++ joinWith separator rest := by
  induction parts with
  | nil => exact absurd rfl h
  | cons first parts ih =>
    by_cases hparts : parts = []
    · subst hparts
      rw [List.singleton_append, joinWith_cons hrest]
      simp [joinWith]
    · rw [List.cons_append, joinWith_cons (List.append_ne_nil_of_left_ne_nil hparts _), ih hparts,
        joinWith_cons hparts]
      simp

theorem joinWith_append_singleton {parts : List Text} (h : parts ≠ []) (separator last : Text) :
    joinWith separator (parts ++ [last]) = joinWith separator parts ++ separator ++ last := by
  rw [joinWith_append h (by simp)]
  simp [joinWith]

/-! ### Words -/

/-- A word of a search text: not empty, and without white space of any kind. -/
structure IsWord (w : Text) : Prop where
  /-- There is something to the word. -/
  ne_nil : w ≠ []
  /-- The word holds no white space. -/
  not_blank : ∀ c ∈ w, isBlank c = false

instance (w : Text) : Decidable (IsWord w) :=
  decidable_of_iff (w ≠ [] ∧ (w.all fun c => !isBlank c) = true)
    ⟨fun h => ⟨h.1, by simpa using h.2⟩, fun h => ⟨h.ne_nil, by simpa using h.not_blank⟩⟩

@[simp]
theorem words_nil : words [] = [] := rfl

theorem words_append_cons (hc : isBlank c = true) (s t : Text) :
    words (s ++ c :: t) = words s ++ words t := by
  rw [words, fragments_append_cons hc, List.filter_append]
  rfl

theorem words_cons (hc : isBlank c = true) (t : Text) : words (c :: t) = words t :=
  words_append_cons hc [] t

theorem IsWord.words_eq {w : Text} (h : IsWord w) : words w = [w] := by
  rw [words, fragments_eq_singleton h.not_blank]
  simp [h.ne_nil]

theorem words_cons_ne_nil (hc : isBlank c = false) (t : Text) : words (c :: t) ≠ [] := by
  obtain ⟨fragment, rest, h⟩ := List.exists_cons_of_ne_nil (fragments_ne_nil isBlank t)
  rw [words, fragments, hc, h]
  simp [consFirst]

theorem words_eq_nil_iff : words s = [] ↔ ∀ c ∈ s, isBlank c = true := by
  induction s with
  | nil => simp
  | cons c s ih =>
    cases hc : isBlank c with
    | true => rw [words_cons hc, ih, List.forall_mem_cons, hc, eq_self, true_and]
    | false => simp [words_cons_ne_nil hc, hc]

theorem words_dropWhile_isBlank (s : Text) : words (s.dropWhile isBlank) = words s := by
  induction s with
  | nil => rfl
  | cons c s ih =>
    cases hc : isBlank c with
    | true => rw [List.dropWhile_cons_of_pos hc, ih, words_cons hc]
    | false => rw [List.dropWhile_cons_of_neg (by simp [hc])]

/-- **Words are counted apart on both sides of white space**, however much of it there is. -/
theorem words_append_blanks {w : Text} (hne : w ≠ []) (hw : ∀ c ∈ w, isBlank c = true)
    (s t : Text) : words (s ++ w ++ t) = words s ++ words t := by
  obtain ⟨c, w, rfl⟩ := List.exists_cons_of_ne_nil hne
  obtain ⟨hc, hw⟩ := List.forall_mem_cons.mp hw
  have hskip : words (w ++ t) = words t := by
    rw [← words_dropWhile_isBlank, List.dropWhile_append_of_pos hw, words_dropWhile_isBlank]
  rw [List.append_assoc, List.cons_append, words_append_cons hc, hskip]

/-- **A blank may be written as another one.** The words of a text do not show which white space
stands between them. -/
theorem words_map {f : Char → Char} (hblank : ∀ c, isBlank c = true → isBlank (f c) = true)
    (hkept : ∀ c, isBlank c = false → f c = c) (s : Text) : words (s.map f) = words s := by
  rw [words, words, fragments_map hblank hkept]

/-! ### The word being typed -/

theorem isBlank_of_isInlineBlank (h : isInlineBlank c = true) : isBlank c = true := by
  rw [isInlineBlank, Bool.and_eq_true] at h
  exact h.1

/-- A blank of a line as a space. -/
def spaceOfBlank (c : Char) : Char := if isInlineBlank c then ' ' else c

/-- The text up to its last blank of a line, with that blank. -/
def keptPart (s : Text) : Text := s.rdropWhile fun c => !isInlineBlank c

/-- The text behind its last blank of a line: what is replaced when a suggestion is accepted. -/
def typedPart (s : Text) : Text := s.rtakeWhile fun c => !isInlineBlank c

theorem keptPart_append_typedPart (s : Text) : keptPart s ++ typedPart s = s :=
  List.rdropWhile_append_rtakeWhile

theorem isInlineBlank_of_mem_typedPart (h : c ∈ typedPart s) : isInlineBlank c = false := by
  simpa using List.mem_rtakeWhile_imp h

/-- What is kept is nothing, or it ends in a blank of a line. -/
theorem keptPart_eq_nil_or (s : Text) :
    keptPart s = [] ∨ ∃ front c, isInlineBlank c = true ∧ keptPart s = front ++ [c] := by
  rcases List.eq_nil_or_concat' (keptPart s) with h | ⟨front, c, h⟩
  · exact Or.inl h
  · have hne : keptPart s ≠ [] := by simp [h]
    have hlast : ¬(!isInlineBlank ((keptPart s).getLast hne)) = true :=
      List.rdropWhile_last_not _ s hne
    rw [List.getLast_congr hne (by simp) h, List.getLast_append_singleton] at hlast
    exact Or.inr ⟨front, c, by simpa using hlast, h⟩

/-- The fragments of a text in front of the last one are those of the part that is kept. -/
theorem dropLast_fragments (s : Text) :
    (fragments isInlineBlank s).dropLast = (fragments isInlineBlank (keptPart s)).dropLast := by
  have htyped : fragments isInlineBlank (typedPart s) = [typedPart s] :=
    fragments_eq_singleton fun c hc => isInlineBlank_of_mem_typedPart hc
  conv_lhs => rw [← keptPart_append_typedPart s]
  rcases keptPart_eq_nil_or s with h | ⟨front, c, hc, h⟩
  · rw [h, List.nil_append, htyped]
    rfl
  · rw [h, List.append_assoc, List.singleton_append, fragments_append_cons hc,
      fragments_append_cons hc, htyped, List.dropLast_concat]
    exact List.dropLast_concat.symm

/-- **Another last word**: what stands in front of the word being typed is kept, with each blank of
a line as a space. -/
theorem replaceLastWord_eq (s word : Text) :
    replaceLastWord s word = (keptPart s).map spaceOfBlank ++ word := by
  rw [replaceLastWord, dropLast_fragments]
  rcases keptPart_eq_nil_or s with h | ⟨front, c, hc, h⟩
  · rw [h]
    simp [joinWith]
  · rw [h, fragments_append_cons hc, fragments_nil, List.dropLast_concat,
      joinWith_append_singleton (fragments_ne_nil _ _), joinWith_fragments]
    simp [spaceOfBlank, hc]

/-- What is kept is apart from what follows it: the words of the two are the words of both. -/
theorem words_keptPart_append (s t : Text) :
    words (keptPart s ++ t) = words (keptPart s) ++ words t := by
  rcases keptPart_eq_nil_or s with h | ⟨front, c, hc, h⟩
  · simp [h]
  · have hblank := isBlank_of_isInlineBlank hc
    rw [h, List.append_assoc, List.singleton_append, words_append_cons hblank,
      words_append_cons hblank front [], words_nil, List.append_nil]

/-! ### Texts that end a word -/

/-- Whether the last word of a text is complete: it is empty or ends in white space of any kind. -/
def endsInBlank (s : Text) : Bool := s.getLast?.all isBlank

/-- A text in which no white space stands behind a character of a word. -/
def IsSingle (s : Text) : Prop := ∀ c ∈ s.dropWhile isBlank, isBlank c = false

instance (s : Text) : Decidable (IsSingle s) :=
  List.decidableBAll (fun c => isBlank c = false) (s.dropWhile isBlank)

theorem endsInBlank_append (h : t ≠ []) (s : Text) : endsInBlank (s ++ t) = endsInBlank t := by
  rw [endsInBlank, endsInBlank, List.getLast?_append_of_ne_nil s h]

theorem endsInBlank_concat (s : Text) (c : Char) : endsInBlank (s ++ [c]) = isBlank c := by
  rw [endsInBlank_append (by simp)]
  rfl

theorem endsInBlank_dropWhile (h : s.dropWhile isBlank ≠ []) :
    endsInBlank (s.dropWhile isBlank) = endsInBlank s := by
  conv_rhs => rw [← List.takeWhile_append_dropWhile (p := isBlank) (l := s)]
  exact (endsInBlank_append h _).symm

theorem endsInBlank_of_words_eq_nil (h : words s = []) : endsInBlank s = true := by
  rcases List.eq_nil_or_concat' s with rfl | ⟨front, c, rfl⟩
  · rfl
  · rw [endsInBlank_concat]
    exact words_eq_nil_iff.mp h c (by simp)

theorem endsInBlank_typedPart (s : Text) : endsInBlank (typedPart s) = endsInBlank s := by
  have hs := keptPart_append_typedPart s
  by_cases h : typedPart s = []
  · rw [h, List.append_nil] at hs
    rw [h, ← hs]
    rcases keptPart_eq_nil_or s with hk | ⟨front, c, hc, hk⟩
    · rw [hk]
    · rw [hk, endsInBlank_concat, isBlank_of_isInlineBlank hc]
      rfl
  · conv_rhs => rw [← hs]
    exact (endsInBlank_append h _).symm

/-- A text that ends in white space is single only if it holds no word. -/
theorem words_eq_nil_iff_isSingle (h : endsInBlank s = true) : words s = [] ↔ IsSingle s := by
  constructor
  · intro hs c hc
    have hdrop : s.dropWhile isBlank = [] := List.dropWhile_eq_nil_iff.mpr (words_eq_nil_iff.mp hs)
    rw [hdrop] at hc
    exact absurd hc List.not_mem_nil
  · intro hs
    rw [← words_dropWhile_isBlank]
    rcases List.eq_nil_or_concat' (s.dropWhile isBlank) with hd | ⟨front, c, hd⟩
    · rw [hd, words_nil]
    · have hlast : endsInBlank (s.dropWhile isBlank) = true :=
        (endsInBlank_dropWhile (by simp [hd])).trans h
      have hc : isBlank c = false := hs c (by simp [hd])
      rw [hd, endsInBlank_concat, hc] at hlast
      exact absurd hlast Bool.false_ne_true

/-- A blank behind the blanks at the front of a text has a word before it. -/
theorem words_front_ne_nil {front back : Text} (h : s.dropWhile isBlank = front ++ c :: back)
    (hc : isBlank c = true) : words front ≠ [] := by
  have hdrop : s.dropWhile isBlank ≠ [] := by simp [h]
  have hhead := List.head_dropWhile_not isBlank hdrop
  cases front with
  | nil => simp [h, hc] at hhead
  | cons d front =>
    have hd : isBlank d = false := by simpa [h] using hhead
    exact words_cons_ne_nil hd front

/-- A blank in a text that ends in a character of a word has a word behind it. -/
theorem words_back_ne_nil {front back : Text} (h : endsInBlank (front ++ c :: back) = false)
    (hc : isBlank c = true) : words back ≠ [] := by
  intro hback
  have hnone : words (c :: back) = [] := (words_cons hc back).trans hback
  rw [endsInBlank_append (List.cons_ne_nil c back), endsInBlank_of_words_eq_nil hnone] at h
  exact Bool.noConfusion h

/-- A text that ends in a character of a word is single when that word is its only one. -/
theorem length_words_eq_one_iff_isSingle (h : endsInBlank s = false) :
    (words s).length = 1 ↔ IsSingle s := by
  have hne : words s ≠ [] := fun hs => by
    rw [endsInBlank_of_words_eq_nil hs] at h
    exact Bool.noConfusion h
  rw [← words_dropWhile_isBlank] at hne ⊢
  have hdrop : s.dropWhile isBlank ≠ [] := fun hd => hne (by rw [hd, words_nil])
  have hlast := (endsInBlank_dropWhile hdrop).trans h
  constructor
  · intro hlength c hc
    by_contra hblank
    rw [Bool.not_eq_false] at hblank
    obtain ⟨u, v, huv⟩ := List.append_of_mem hc
    -- Both sides of the blank hold a word, so there are two.
    have hu := List.length_pos_iff.mpr (words_front_ne_nil huv hblank)
    have hv := List.length_pos_iff.mpr (words_back_ne_nil (huv ▸ hlast) hblank)
    rw [huv, words_append_cons hblank, List.length_append] at hlength
    omega
  · intro hs
    have hword : IsWord (s.dropWhile isBlank) := ⟨hdrop, hs⟩
    rw [hword.words_eq, List.length_singleton]

/-! ### Another last word -/

theorem isInlineBlank_spaceOfBlank (c : Char) :
    isInlineBlank (spaceOfBlank c) = isInlineBlank c := by
  rw [spaceOfBlank]
  split
  · next h => rw [h]; decide
  · rfl

theorem isBlank_spaceOfBlank (h : isBlank c = true) : isBlank (spaceOfBlank c) = true := by
  rw [spaceOfBlank]
  split
  · decide
  · exact h

theorem spaceOfBlank_of_not_inline (h : isInlineBlank c = false) : spaceOfBlank c = c := by
  rw [spaceOfBlank, h, if_neg Bool.false_ne_true]

theorem spaceOfBlank_of_not_blank (h : isBlank c = false) : spaceOfBlank c = c :=
  spaceOfBlank_of_not_inline (by rw [isInlineBlank, h, Bool.false_and])

theorem spaceOfBlank_spaceOfBlank (c : Char) : spaceOfBlank (spaceOfBlank c) = spaceOfBlank c := by
  by_cases h : isInlineBlank c = true
  · rw [spaceOfBlank, isInlineBlank_spaceOfBlank, if_pos h, spaceOfBlank, if_pos h]
  · rw [spaceOfBlank, isInlineBlank_spaceOfBlank, if_neg h]

theorem keptPart_append {w : Text} (hw : ∀ c ∈ w, isInlineBlank c = false) (s : Text) :
    keptPart (s ++ w) = keptPart s := by
  have hcut : ∀ c ∈ w.reverse, (!isInlineBlank c) = true :=
    fun c hc => by simp [hw c (List.mem_reverse.1 hc)]
  change ((s ++ w).reverse.dropWhile _).reverse = (s.reverse.dropWhile _).reverse
  rw [List.reverse_append, List.dropWhile_append_of_pos hcut]

theorem keptPart_concat (hc : isInlineBlank c = true) (s : Text) : keptPart (s ++ [c]) = s ++ [c] :=
  List.rdropWhile_concat_neg _ _ _ (by simp [hc])

/-- A word put behind what was kept is the word being typed again. -/
theorem keptPart_map_append {w : Text} (hw : ∀ c ∈ w, isInlineBlank c = false) (s : Text) :
    keptPart ((keptPart s).map spaceOfBlank ++ w) = (keptPart s).map spaceOfBlank := by
  rw [keptPart_append hw]
  rcases keptPart_eq_nil_or s with h | ⟨front, c, hc, h⟩
  · rw [h]
    rfl
  · rw [h, List.map_append, List.map_cons, List.map_nil,
      keptPart_concat ((isInlineBlank_spaceOfBlank c).trans hc)]

/-- **Only the last word put in counts**, as long as the one before it held no blank of a line. -/
theorem replaceLastWord_replaceLastWord {w₁ : Text} (hw : ∀ c ∈ w₁, isInlineBlank c = false)
    (s w₂ : Text) : replaceLastWord (replaceLastWord s w₁) w₂ = replaceLastWord s w₂ := by
  rw [replaceLastWord_eq, replaceLastWord_eq s w₁, keptPart_map_append hw, List.map_map,
    replaceLastWord_eq]
  congr 2
  exact funext spaceOfBlank_spaceOfBlank

/-- Another last word becomes one word more than what is kept has. -/
theorem words_replaceLastWord {word : Text} (h : IsWord word) (s : Text) :
    words (replaceLastWord s word) = words (keptPart s) ++ [word] := by
  rw [replaceLastWord_eq]
  have hkept := words_map (fun c => isBlank_spaceOfBlank) (fun c => spaceOfBlank_of_not_blank)
    (keptPart s)
  rcases keptPart_eq_nil_or s with hk | ⟨front, c, hc, hk⟩
  · simpa [hk] using h.words_eq
  · rw [← hkept, hk, List.map_append, List.map_singleton, List.append_assoc, List.singleton_append,
      words_append_cons (isBlank_spaceOfBlank (isBlank_of_isInlineBlank hc)),
      words_append_cons (isBlank_spaceOfBlank (isBlank_of_isInlineBlank hc)), h.words_eq, words_nil,
      List.append_nil]

end NoteSieve.Text
