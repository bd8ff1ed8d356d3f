import NoteSieve.Proofs.Output.Rows
import NoteSieve.Proofs.Query.Grammar

/-!
# Reading a table of tokens

A table of tokens leaves nothing out. Its rows are cells with spaces between them, and none of the
cells has a space in it: the number and the kind never do, and a word of a search text does not
either, as it was cut out at white space. So the cells are found again one after the other,
whatever they are filled up to (`NoteSieve.Text.cutCell`), and **the tokens are read back from the
table** (`NoteSieve.Query.tokensTable_lossless`).

Two things could go wrong, and what is known of the tokens of a query
(`NoteSieve.Token.IsTyped`) rules them out. The end of a row is cut off, which takes the space in
front of an empty name along; but only a tag has an empty text, so that nothing else is left of the
row than of the bare operator. And a text with a line feed would be read as two rows.
-/

namespace NoteSieve

open Text Unicode

/-! ### Cells -/

namespace Text

variable {s w t : Text}

/-- The cell at the front of a row, and what follows behind the spaces. -/
def cutCell (row : Text) : Text × Text :=
  (row.takeWhile (· != ' '), (row.dropWhile (· != ' ')).dropWhile (· == ' '))

theorem ne_space_of_not_mem (hw : ' ' ∉ w) : ∀ c ∈ w, (c != ' ') = true := fun c hc => by
  rw [bne_iff_ne]
  rintro rfl
  exact hw hc

theorem cutCell_self (hw : ' ' ∉ w) : cutCell w = (w, []) := by
  have hall := ne_space_of_not_mem hw
  rw [cutCell, List.takeWhile_eq_self_iff.mpr hall, List.dropWhile_eq_nil_iff.mpr hall]
  rfl

/-- **A cell is found again**, however wide its column is. -/
theorem cutCell_padRight (hw : ' ' ∉ w) (ht : t.head? ≠ some ' ') (width : Nat) :
    cutCell (w.padRight width ++ ' ' :: t) = (w, t) := by
  obtain ⟨n, hn⟩ : ∃ n, w.padRight width ++ ' ' :: t = w ++ (List.replicate (n + 1) ' ' ++ t) :=
    ⟨width - w.length, by simp [padRight, List.replicate_succ']⟩
  have hall := ne_space_of_not_mem hw
  have hspaces : ∀ c ∈ List.replicate (n + 1) ' ', (c == ' ') = true := fun c hc => by
    rw [List.eq_of_mem_replicate hc, beq_self_eq_true]
  have hrest : t.dropWhile (· == ' ') = t := by
    cases t with
    | nil => rfl
    | cons c t => exact List.dropWhile_cons_of_neg (by simpa using ht)
  rw [hn, cutCell, List.takeWhile_append_of_pos hall, List.dropWhile_append_of_pos hall,
    List.replicate_succ, List.cons_append, List.takeWhile_cons_of_neg (by decide), List.append_nil,
    List.dropWhile_cons_of_neg (by decide), ← List.cons_append, ← List.replicate_succ,
    List.dropWhile_append_of_pos hspaces, hrest]

theorem endsInBlank_eq_false (h : ∀ c ∈ s, isBlank c = false) (hs : s ≠ []) :
    endsInBlank s = false := by
  rcases List.eq_nil_or_concat' s with rfl | ⟨front, c, rfl⟩
  · exact absurd rfl hs
  · rw [endsInBlank_concat]
    exact h c (by simp)

end Text

/-! ### Rows -/

namespace Token

variable {ops : Operators} {s : Text} {t : Token}

/-- What is known of the tokens of a search text: none holds white space, and no keyword is
empty. -/
structure IsTyped (t : Token) : Prop where
  /-- The text of a token was cut out at white space. -/
  not_blank : ∀ c ∈ t.text, isBlank c = false
  /-- There is something to a keyword. -/
  ne_keyword_nil : t ≠ .keyword []

theorem isTyped_of_mem (h : t ∈ (Query.parse ops s).tokens) : t.IsTyped := by
  obtain ⟨w, hw, rfl⟩ := List.mem_map.mp h
  have hword := isWord_of_mem_words hw
  have hread : Reads ops w (ofWord ops w) := reads_iff.mpr rfl
  exact ⟨fun c hc => hword.not_blank c (hread.text_isSuffix.subset hc), hread.ne_keyword_nil hword⟩

/-- The row of a token without color, before its end is cut off. -/
def fullRow (number : Nat) (t : Token) : Text :=
  joinWith [' ']
    [(ofNat number).padRight tokenWidths.1, t.kind.padRight tokenWidths.2, t.text]

theorem row_plain (number : Nat) (t : Token) :
    t.row false number = (fullRow number t).trimEnd isBlank := by
  cases t <;> rfl

/-- Nothing is cut off behind a text. -/
theorem IsTyped.row_of_ne_nil (h : t.IsTyped) (ht : t.text ≠ []) (number : Nat) :
    t.row false number = fullRow number t := by
  rw [row_plain, trimEnd_eq_self_iff]
  intro _
  rw [fullRow, endsInBlank_joinWith_three, endsInBlank_eq_false h.not_blank ht]

/-- Of a bare operator the number and the kind are left. -/
theorem row_tag_nil (number : Nat) : (tag []).row false number =
    (ofNat number).padRight tokenWidths.1 ++ ' ' :: "tag".toList := by
  have hlast : 'g' ∈ (tag []).kind.padRight tokenWidths.2 ++ ' ' :: (tag []).text := by decide
  rw [row_plain, fullRow, joinWith_three, List.append_cons, trimEnd_append hlast (by decide),
    ← List.append_cons]
  rfl

theorem IsTyped.eq_tag_nil (h : t.IsTyped) (ht : t.text = []) : t = tag [] := by
  cases t with
  | keyword s => exact absurd (congrArg keyword ht) h.ne_keyword_nil
  | tag s => exact congrArg tag ht

theorem not_blank_of_mem_kind {c : Char} (h : c ∈ t.kind) : isBlank c = false := by
  have hkind : t.kind.any isBlank = false := by cases t <;> rfl
  exact eq_false_of_ne_true (List.any_eq_false.mp hkind c h)

/-- Reads the row of a token: the token, and its number. -/
def ofRow? (row : Text) : Option (Token × Nat) :=
  let (number, rest) := cutCell row
  let (kind, text) := cutCell rest
  match digits? 10 number with
  | none => none
  | some n =>
    if kind = "keyword".toList then some (.keyword text, n)
    else if kind = "tag".toList then some (.tag text, n)
    else none

/-- **A token is read back from its row**, with its number. -/
theorem IsTyped.ofRow?_row (h : t.IsTyped) (number : Nat) :
    ofRow? (t.row false number) = some (t, number) := by
  have hnumber : ' ' ∉ ofNat number := not_mem_ofNat (by decide)
  by_cases ht : t.text = []
  · obtain rfl := h.eq_tag_nil ht
    rw [row_tag_nil, ofRow?, cutCell_padRight hnumber (by decide)]
    simp only [cutCell_self (show ' ' ∉ "tag".toList by decide), digits?_ofNat]
    rfl
  · have hhead : t.text.head? ≠ some ' ' := fun hhead =>
      absurd (h.not_blank ' ' (List.mem_of_mem_head? hhead)) (by decide)
    have hkind : ' ' ∉ t.kind := fun hmem => absurd (not_blank_of_mem_kind hmem) (by decide)
    have hcells : (t.kind.padRight tokenWidths.2 ++ ' ' :: t.text).head? ≠ some ' ' := by
      cases t with
      | keyword s => exact Option.some_inj.not.mpr (by decide : 'k' ≠ ' ')
      | tag s => exact Option.some_inj.not.mpr (by decide : 't' ≠ ' ')
    rw [h.row_of_ne_nil ht, fullRow, joinWith_three, ofRow?, cutCell_padRight hnumber hcells]
    simp only [cutCell_padRight hkind hhead, digits?_ofNat]
    cases t <;> rfl

/-- A row of a token is one line. -/
theorem IsTyped.lineFeed_not_mem_row (h : t.IsTyped) (number : Nat) :
    '\n' ∉ t.row false number := by
  intro hmem
  rw [row_plain] at hmem
  have hfull : '\n' ∈ fullRow number t := (trimEnd_prefix_self isBlank _).subset hmem
  have hnumber : '\n' ∉ ofNat number := not_mem_ofNat (by decide)
  have hkind : '\n' ∉ t.kind := fun hkind => absurd (not_blank_of_mem_kind hkind) (by decide)
  have htext : '\n' ∉ t.text := fun htext => absurd (h.not_blank _ htext) (by decide)
  simp [fullRow, joinWith_three, padRight, hnumber, hkind, htext] at hfull

end Token

/-! ### The table -/

/-- The tokens that a table shows: one for each line behind the heading. -/
def tokensOfTable (table : Text) : List Token :=
  ((endedLines table).tail.filterMap Token.ofRow?).map Prod.fst

namespace Query

/-- The rows of a table of tokens without color. -/
def rows (q : Query) : List Text := (q.tokens.zipIdx 1).map fun (t, number) => t.row false number

variable {q : Query}

theorem tokensTable_plain (h : q.tokens ≠ []) :
    tokensTable false q = unlines (tokensHeading :: q.rows) := by
  rw [tokensTable_eq, if_neg h]
  rfl

theorem map_ofRow?_rows (h : ∀ t ∈ q.tokens, t.IsTyped) :
    q.rows.map Token.ofRow? = (q.tokens.zipIdx 1).map some := by
  rw [rows, List.map_map]
  refine List.map_congr_left fun x hx => ?_
  exact (h x.1 (List.fst_mem_of_mem_zipIdx hx)).ofRow?_row x.2

theorem endedLines_tokensTable (hne : q.tokens ≠ []) (h : ∀ t ∈ q.tokens, t.IsTyped) :
    endedLines (tokensTable false q) = tokensHeading :: q.rows := by
  rw [tokensTable_plain hne, endedLines_unlines, flatMap_lines_eq_self]
  refine List.forall_mem_cons.mpr ⟨by decide, List.forall_mem_map.mpr fun x hx => ?_⟩
  exact (h x.1 (List.fst_mem_of_mem_zipIdx hx)).lineFeed_not_mem_row x.2

/-- **The tokens are read back from their table.** -/
theorem tokensOfTable_tokensTable (h : ∀ t ∈ q.tokens, t.IsTyped) :
    tokensOfTable (tokensTable false q) = q.tokens := by
  by_cases hne : q.tokens = []
  · rw [tokensTable_eq, if_pos hne, hne]
    decide
  · have hrows : q.rows.filterMap Token.ofRow? = q.tokens.zipIdx 1 := by
      have hread := congrArg (List.filterMap id) (map_ofRow?_rows h)
      simpa [List.filterMap_map] using hread
    rw [tokensOfTable, endedLines_tokensTable hne h, List.tail_cons, hrows, List.zipIdx_map_fst]

/-- **The table of the tokens of a search text is lossless.** It says that there is no token where
there is none. Else it is a heading with one line for each token behind it, from which the token is
read and its number; they are numbered from one in their order. So two search texts with one table
have the same tokens, whatever operators they were read with. -/
theorem tokensTable_lossless (ops : Operators) (s : Text) :
    let q := parse ops s
    let table := tokensTable false q
    (q.tokens = [] → table = noTokensNotice) ∧
    (q.tokens ≠ [] → ∃ rows, table = unlines (tokensHeading :: rows) ∧
      endedLines table = tokensHeading :: rows ∧
      rows.map Token.ofRow? = (q.tokens.zipIdx 1).map some) ∧
    tokensOfTable table = q.tokens ∧
    ∀ (ops' : Operators) (s' : Text), tokensTable false (parse ops' s') = table →
      (parse ops' s').tokens = q.tokens := by
  intro q table
  have htyped : ∀ t ∈ q.tokens, t.IsTyped := fun t ht => Token.isTyped_of_mem ht
  have hread : tokensOfTable table = q.tokens := tokensOfTable_tokensTable htyped
  refine ⟨fun h => ?_, fun h => ?_, hread, fun ops' s' h => ?_⟩
  · exact (tokensTable_eq false q).trans (if_pos h)
  · exact ⟨q.rows, tokensTable_plain h, endedLines_tokensTable h htyped, map_ofRow?_rows htyped⟩
  · rw [← hread, ← h]
    exact (tokensOfTable_tokensTable fun t ht => Token.isTyped_of_mem ht).symm

/-- A bare operator and a tag named like a kind are told apart from a keyword and from each other,
and the operator that was typed does not show. -/
theorem tokensTable_lossless_bare :
    let q := parse .default "tag:keyword TAG: keyword".toList
    let q' := parse ⟨"#".toList, "tag:".toList⟩ "#keyword\t# keyword".toList
    (parse .default [' ']).tokens = [] ∧ tokensTable false (parse .default [' ']) = noTokensNotice ∧
    q.tokens ≠ [] ∧
    (∃ rows, endedLines (tokensTable false q) = tokensHeading :: rows ∧
      rows.map Token.ofRow? = [some (.tag "keyword".toList, 1), some (.tag [], 2),
        some (.keyword "keyword".toList, 3)]) ∧
    tokensTable false q' = tokensTable false q ∧ q'.tokens = q.tokens := by
  intro q q'
  have hnone : (parse .default [' ']).tokens = [] := by decide
  have hne : q.tokens ≠ [] := by decide
  have htable : tokensTable false q' = tokensTable false q := by decide
  obtain ⟨-, hrows, -, htokens⟩ := tokensTable_lossless .default "tag:keyword TAG: keyword".toList
  obtain ⟨rows, -, hlines, hmap⟩ := hrows hne
  exact ⟨hnone, (tokensTable_lossless .default [' ']).1 hnone, hne, ⟨rows, hlines, hmap⟩, htable,
    htokens _ _ htable⟩

end Query

end NoteSieve
