import NoteSieve.Proofs.Output.Style
import NoteSieve.Proofs.Output.Tokens

/-!
# Tables without their colors

In color each cell of a row is filled up to its width and then put in its style, and the end of the
row is cut off last. Blanks at the end of a row stand in front of a code then, or in it, and stay.
So a table in color shows rows with more at their ends than the rows without color have
(`NoteSieve.Note.bareRow`, `NoteSieve.Token.bareRow`): a note whose tags end in a blank, or that has
none, and a bare operator. The tags of a note may also hold codes themselves, since an escape
character can be spelled without one in a JSON array; these come off with the others.

**A table in color is the table without exactly if no row is of these kinds**
(`NoteSieve.withoutCodes_tables_iff`). That no two differences make up for each other takes a count.
First of the escape characters: codes in the tags are taken off the table in color only, so they are
fewer there unless there are none (`NoteSieve.Note.count_bareRow`). Then the rows differ in their
ends at most, and the longer rows would make a longer table (`NoteSieve.Text.unlines_map_eq_iff`).
-/

namespace NoteSieve

open Text Unicode

open Style (escape)

variable {s a b c a' b' c' : Text}

/-! ### Cells -/

theorem Text.escape_not_mem_truncate (h : escape ∉ s) (width : Nat) :
    escape ∉ s.truncate width := by
  rw [truncate]
  split
  · exact h
  · exact List.not_mem_append (fun hmem => h (List.mem_of_mem_take hmem)) (by decide)

theorem Text.escape_not_mem_padRight (h : escape ∉ s) (width : Nat) :
    escape ∉ s.padRight width := by
  have hspaces : ∀ n, escape ∉ List.replicate n ' ' := fun n hmem =>
    absurd (List.eq_of_mem_replicate hmem) (by decide)
  simp [padRight, h, hspaces]

theorem Text.Shows.joinWith_three (ha : Shows a a') (hb : Shows b b') (hc : Shows c c') :
    Shows (joinWith [' '] [a, b, c]) (joinWith [' '] [a', b', c']) := by
  have hspace : Shows [' '] [' '] := shows_self (by decide)
  simpa [NoteSieve.joinWith_three] using
    ha.append (hspace.append (hb.append (hspace.append hc)))

/-! ### Notes -/

namespace Note

variable {n : Note}

/-- The key and the content of a note have no escape character. -/
structure IsEscapeFree (n : Note) : Prop where
  /-- The key has none. -/
  id : ∀ s ∈ n.id, escape ∉ s
  /-- The content has none. -/
  content : ∀ s ∈ n.content, escape ∉ s

theorem IsEscapeFree.idCell (h : n.IsEscapeFree) : escape ∉ n.idCell := by
  refine escape_not_mem_padRight (escape_not_mem_truncate ?_ _) _
  cases hid : n.id with
  | none => decide
  | some s => exact h.id s hid

theorem IsEscapeFree.titleCell (h : n.IsEscapeFree) : escape ∉ n.titleCell := by
  refine escape_not_mem_padRight (escape_not_mem_truncate (fun hmem => ?_) _) _
  have hcontent : escape ∈ n.content.getD [] := (List.takeWhile_prefix _).subset hmem
  cases hs : n.content with
  | none => simp [hs] at hcontent
  | some s => exact h.content s hs (by simpa [hs] using hcontent)

/-- What a row in color shows: its end is not cut off. -/
def bareRow (n : Note) : Text :=
  joinWith [' '] [n.idCell, n.titleCell, withoutCodes (formatTagList n.tags)]

theorem IsEscapeFree.shows_row (h : n.IsEscapeFree) : Shows (n.row true) n.bareRow := by
  rw [row_colored]
  exact (shows_paint_self h.idCell _).joinWith_three (shows_paint_self h.titleCell _)
    (shows_paint _ _)

/-! ### Where the end of a row is cut off -/

theorem row_plain_eq_fullRow_iff :
    n.row false = n.fullRow ↔ endsInBlank (formatTagList n.tags) = false := by
  have hne : n.fullRow ≠ [] := by simp [fullRow, joinWith_three]
  rw [row_plain, trimEnd_eq_self_iff, fullRow, endsInBlank_joinWith_three]
  exact forall_prop_of_true hne

/-- A row in color shows no more escape characters than the row without, and no fewer only if no
code is taken off its tags. -/
theorem count_bareRow (n : Note) :
    n.bareRow.count escape ≤ (n.row false).count escape ∧
      (n.bareRow.count escape = (n.row false).count escape →
        withoutCodes (formatTagList n.tags) = formatTagList n.tags) := by
  obtain ⟨hle, heq⟩ := count_withoutCodes (formatTagList n.tags)
  rw [row_plain, count_escape_trimEnd, bareRow, fullRow, joinWith_three, joinWith_three]
  simp only [List.count_append, List.count_cons]
  exact ⟨by omega, fun hcount => heq (by omega)⟩

/-- **When the row in color shows the row without**: there is no code in the tags, and their end is
left as it is. -/
theorem bareRow_eq_row_iff : n.bareRow = n.row false ↔
    withoutCodes (formatTagList n.tags) = formatTagList n.tags ∧
      endsInBlank (formatTagList n.tags) = false := by
  rw [← row_plain_eq_fullRow_iff]
  constructor
  · intro h
    have htags := n.count_bareRow.2 (congrArg (List.count escape) h)
    exact ⟨htags, by rw [← h, bareRow, htags, fullRow]⟩
  · rintro ⟨htags, hrow⟩
    rw [hrow, bareRow, htags, fullRow]

end Note

/-- **What the table of the notes in color shows**: the heading, the rows with their ends, and the
footer. -/
theorem shows_notesTable {notes : List Note} (hne : notes ≠ []) (h : ∀ n ∈ notes, n.IsEscapeFree)
    (total : Nat) : Shows (notesTable true notes total)
      (unlines (notesHeading :: (notes.map Note.bareRow ++ notesFooter notes.length total))) := by
  have hheading : Shows (Style.dimmed.paint true notesHeading) notesHeading :=
    shows_paint_self (by decide) _
  have hrows : Shows (unlines (notes.map (Note.row true))) (unlines (notes.map Note.bareRow)) :=
    shows_unlines_map fun n hn => (h n hn).shows_row
  have hfooter := shows_unlines_map (f := id) (g := id) fun s hs =>
    shows_self (not_mem_notesFooter (by decide) (by decide) notes.length total s hs)
  rw [List.map_id] at hfooter
  rw [notesTable_eq, if_neg hne, List.cons_append]
  refine hheading.unlines_cons ?_
  rw [unlines_append, unlines_append]
  exact hrows.append hfooter

/-- Rows in color show the rows without exactly if each of them does. Escape characters are counted
first: there are no fewer of them only if no code is taken off the tags, and then the rows differ in
their ends at most. -/
theorem unlines_bareRow_eq_iff {notes : List Note} :
    unlines (notes.map Note.bareRow) = unlines (notes.map (Note.row false)) ↔
      ∀ n ∈ notes, n.bareRow = n.row false := by
  refine ⟨fun heq => ?_, fun heq => by rw [List.map_congr_left heq]⟩
  have hcount := (countP_unlines_map (p := (· == escape)) fun n _ => n.count_bareRow.1).2
    (congrArg _ heq)
  have hfull : ∀ n ∈ notes, n.bareRow = n.fullRow := fun n hn => by
    rw [Note.bareRow, n.count_bareRow.2 (hcount n hn), Note.fullRow]
  rw [List.map_congr_left hfull] at heq
  have hrow := (unlines_map_eq_iff fun n _ => trimEnd_prefix_self isBlank n.fullRow).mp heq.symm
  exact fun n hn => (hfull n hn).trans (hrow n hn).symm

/-- **The table of the notes in color** shows the table without exactly if each row does. -/
theorem withoutCodes_notesTable_iff {notes : List Note} (h : ∀ n ∈ notes, n.IsEscapeFree)
    (total : Nat) : withoutCodes (notesTable true notes total) = notesTable false notes total ↔
      ∀ n ∈ notes, n.bareRow = n.row false := by
  by_cases hne : notes = []
  · subst hne
    have hnotice : escape ∉ noNotesNotice := by decide
    simp [notesTable_eq, withoutCodes_eq_self hnotice]
  rw [← unlines_bareRow_eq_iff, (shows_notesTable hne h total).eq, notesTable_eq, if_neg hne,
    List.cons_append, unlines_cons, unlines_cons, unlines_append, unlines_append, Style.paint,
    if_neg (by decide), List.append_cancel_left_eq, List.cons.injEq, eq_self, true_and,
    List.append_cancel_right_eq]

/-! ### Tags -/

theorem withoutCodes_tagsTable {operator : Text} {tags : List Tag} (hoperator : escape ∉ operator)
    (hnames : ∀ name ∈ tags.filterMap Tag.name, escape ∉ name) :
    withoutCodes (tagsTable true operator tags) = tagsTable false operator tags := by
  by_cases hne : tags = []
  · rw [tagsTable_eq, tagsTable_eq, if_pos hne, if_pos hne]
    decide
  · have hrows : Shows (unlines ((tags.filterMap Tag.name).map (tagRow true operator)))
        (unlines ((tags.filterMap Tag.name).map (tagRow false operator))) :=
      shows_unlines_map fun name hname =>
        (shows_paint_self hoperator _).append (shows_paint_self (hnames name hname) _)
    rw [tagsTable_eq, tagsTable_eq, if_neg hne, if_neg hne, hrows.eq]

/-! ### Tokens -/

namespace Token

variable {t : Token} {ops : Operators}

/-- What is in a token of a search text is in the text. -/
theorem subset_of_mem (h : t ∈ (Query.parse ops s).tokens) : t.text ⊆ s := by
  obtain ⟨w, hw, rfl⟩ := List.mem_map.mp h
  have hread : Reads ops w (ofWord ops w) := reads_iff.mpr rfl
  intro c hc
  exact (mem_and_not_of_mem_fragments (List.mem_filter.mp hw).1
    (hread.text_isSuffix.subset hc)).1

/-- What a row in color shows. The end of the row of a bare operator is cut off behind a code, and
the spaces in the code stay. -/
def bareRow (number : Nat) (t : Token) : Text :=
  if t = .tag [] then (ofNat number).padRight tokenWidths.1 ++ ' ' :: t.kind.padRight tokenWidths.2
  else t.row false number

/-- Only of a bare operator more is shown in color. -/
theorem row_plain_prefix_bareRow (number : Nat) (t : Token) :
    t.row false number <+: bareRow number t := by
  rw [bareRow]
  split
  · next ht =>
    subst ht
    rw [row_tag_nil, List.prefix_append_right_inj, List.cons_prefix_cons]
    exact ⟨rfl, List.prefix_append _ _⟩
  · exact List.prefix_rfl

theorem row_plain_eq_bareRow_iff {number : Nat} :
    t.row false number = bareRow number t ↔ t ≠ .tag [] := by
  rw [bareRow]
  split
  · next ht =>
    subst ht
    rw [row_tag_nil, List.append_cancel_left_eq, List.cons.injEq]
    decide
  · next ht => exact iff_of_true rfl ht

theorem escape_not_mem_numberCell (number : Nat) :
    escape ∉ (ofNat number).padRight tokenWidths.1 :=
  escape_not_mem_padRight (not_mem_ofNat (by decide)) _

theorem escape_not_mem_kindCell (t : Token) : escape ∉ t.kind.padRight tokenWidths.2 := by
  refine escape_not_mem_padRight ?_ _
  cases t with
  | keyword s => exact (by decide : escape ∉ "keyword".toList)
  | tag name => exact (by decide : escape ∉ "tag".toList)

theorem escape_not_mem_row (htext : escape ∉ t.text) (number : Nat) :
    escape ∉ t.row false number := fun h => by
  rw [row_plain] at h
  have hfull := (trimEnd_prefix_self isBlank _).subset h
  rw [fullRow, joinWith_three] at hfull
  have hspace : escape ≠ ' ' := by decide
  simp [escape_not_mem_numberCell, escape_not_mem_kindCell, htext, hspace] at hfull

/-- The row of a bare operator in color is cut off behind the code that ends the kind. -/
theorem row_colored_tag_nil (number : Nat) : (tag []).row true number =
    (ofNat number).padRight tokenWidths.1 ++ [' ']
      ++ Style.cyan.paint true ((tag []).kind.padRight tokenWidths.2) := by
  have hrow : (tag []).row true number = (joinWith [' '] [(ofNat number).padRight tokenWidths.1,
      Style.cyan.paint true ((tag []).kind.padRight tokenWidths.2), []]).trimEnd isBlank := rfl
  have hsplit : joinWith [' '] [(ofNat number).padRight tokenWidths.1,
      Style.cyan.paint true ((tag []).kind.padRight tokenWidths.2), []]
        = (ofNat number).padRight tokenWidths.1 ++ [' ']
          ++ Style.cyan.paint true ((tag []).kind.padRight tokenWidths.2) ++ [' '] := by
    simp [joinWith_three]
  rw [hrow, hsplit, trimEnd_eq_rdropWhile, List.rdropWhile_concat_pos _ _ _ (by decide),
    ← trimEnd_eq_rdropWhile, trimEnd_eq_self_iff, endsInBlank_append (paint_ne_nil _ _)]
  exact fun _ => endsInBlank_paint _ _

/-- **What the row of a token in color shows.** -/
theorem IsTyped.shows_row (h : t.IsTyped) (htext : escape ∉ t.text) (number : Nat) :
    Shows (t.row true number) (bareRow number t) := by
  have hnumber := shows_self (escape_not_mem_numberCell number)
  have hspace : Shows [' '] [' '] := shows_self (by decide)
  have hkind := shows_paint_self (escape_not_mem_kindCell t) .cyan
  by_cases ht : t = .tag []
  · subst ht
    rw [bareRow, if_pos rfl, row_colored_tag_nil]
    simpa using hnumber.append (hspace.append hkind)
  rw [bareRow, if_neg ht]
  cases t with
  | keyword s => exact shows_self (escape_not_mem_row htext number)
  | tag name =>
    have hne : name ≠ [] := fun hname => ht (congrArg tag hname)
    have hrow : (tag name).row true number = joinWith [' ']
        [(ofNat number).padRight tokenWidths.1,
          Style.cyan.paint true ((tag name).kind.padRight tokenWidths.2), name] := by
      refine trimEnd_eq_self_iff.mpr fun _ => ?_
      rw [endsInBlank_joinWith_three]
      exact endsInBlank_eq_false h.not_blank hne
    rw [hrow, h.row_of_ne_nil hne, fullRow]
    exact hnumber.joinWith_three hkind (shows_self htext)

end Token

/-- **The table of the tokens in color** shows the table without exactly if no operator is bare. -/
theorem withoutCodes_tokensTable_iff {q : Query} (htyped : ∀ t ∈ q.tokens, t.IsTyped)
    (htext : ∀ t ∈ q.tokens, escape ∉ t.text) :
    withoutCodes (tokensTable true q) = tokensTable false q ↔ Token.tag [] ∉ q.tokens := by
  by_cases hne : q.tokens = []
  · rw [tokensTable_eq, tokensTable_eq, if_pos hne, if_pos hne, hne]
    decide
  have hheading : Shows (Style.dimmed.paint true tokensHeading) tokensHeading :=
    shows_paint_self (by decide) _
  have hmem : ∀ x ∈ q.tokens.zipIdx 1, x.1 ∈ q.tokens := fun x => List.fst_mem_of_mem_zipIdx
  have hrows : Shows (unlines ((q.tokens.zipIdx 1).map fun x => x.1.row true x.2))
      (unlines ((q.tokens.zipIdx 1).map fun x => x.1.bareRow x.2)) :=
    shows_unlines_map fun x hx => (htyped _ (hmem x hx)).shows_row (htext _ (hmem x hx)) x.2
  have hshows : Shows (tokensTable true q)
      (unlines (tokensHeading :: (q.tokens.zipIdx 1).map fun x => x.1.bareRow x.2)) := by
    rw [tokensTable_eq, if_neg hne]
    exact hheading.unlines_cons hrows
  rw [hshows.eq, Query.tokensTable_plain hne, unlines_cons, unlines_cons,
    List.append_cancel_left_eq, List.cons.injEq, eq_self, true_and, eq_comm]
  refine (unlines_map_eq_iff fun x _ => Token.row_plain_prefix_bareRow x.2 x.1).trans ?_
  simp only [Token.row_plain_eq_bareRow_iff]
  conv_rhs => rw [← List.zipIdx_map_fst 1 q.tokens, List.mem_map]
  exact ⟨fun h ⟨x, hx, ht⟩ => h x hx ht, fun h x hx ht => h ⟨x, hx, ht⟩⟩

/-! ### All tables -/

/-- **When color is decoration only.** With the codes taken off, the table of some notes in color is
the table without exactly if there is no code in what is shown of their tags, and there is something
to see at its end. The table of some tags always is. The table of the tokens of a search text is
exactly if no operator in it is bare. There may be no escape character in keys and contents,
operator and names, or the search text. -/
theorem withoutCodes_tables_iff (notes : List Note) (total : Nat) (operator : Text)
    (tags : List Tag) (ops : Operators) (s : Text) :
    let q := Query.parse ops s
    ((∀ n ∈ notes, n.IsEscapeFree) →
      (withoutCodes (notesTable true notes total) = notesTable false notes total ↔
        ∀ n ∈ notes, withoutCodes (formatTagList n.tags) = formatTagList n.tags ∧
          endsInBlank (formatTagList n.tags) = false)) ∧
    (escape ∉ operator → (∀ name ∈ tags.filterMap Tag.name, escape ∉ name) →
      withoutCodes (tagsTable true operator tags) = tagsTable false operator tags) ∧
    (escape ∉ s → (withoutCodes (tokensTable true q) = tokensTable false q ↔
      Token.tag [] ∉ q.tokens)) := by
  intro q
  refine ⟨fun h => ?_, withoutCodes_tagsTable, fun hs => ?_⟩
  · rw [withoutCodes_notesTable_iff h]
    exact forall₂_congr fun n _ => Note.bareRow_eq_row_iff
  · exact withoutCodes_tokensTable_iff (fun t ht => Token.isTyped_of_mem ht)
      fun t ht hmem => hs (Token.subset_of_mem ht hmem)

/-- A note with a tag, and a search text whose operators all have a name. -/
theorem withoutCodes_tables_iff_home :
    let notes : List Note :=
      [⟨some "1".toList, some "Milk".toList, false, none, some "[\"home\"]".toList⟩]
    let tags : List Tag := [⟨some "work".toList⟩, ⟨none⟩]
    let q := Query.parse .default "milk tag:home".toList
    withoutCodes (notesTable true notes 2) = notesTable false notes 2 ∧
      withoutCodes (tagsTable true "tag:".toList tags) = tagsTable false "tag:".toList tags ∧
      withoutCodes (tokensTable true q) = tokensTable false q := by
  intro notes tags q
  obtain ⟨hnotes, htags, htokens⟩ :=
    withoutCodes_tables_iff notes 2 "tag:".toList tags .default "milk tag:home".toList
  have hfree : ∀ n ∈ notes, n.IsEscapeFree := List.forall_mem_singleton.mpr
    ⟨fun s hs => Option.some.inj hs ▸ by decide, fun s hs => Option.some.inj hs ▸ by decide⟩
  exact ⟨(hnotes hfree).mpr (List.forall_mem_singleton.mpr (by decide +kernel)),
    htags (by decide) (by decide), (htokens (by decide)).mpr (by decide)⟩

/-- **Color is not decoration only**: the row of a note without tags ends in spaces when its codes
are taken off, and so does the row of a bare operator. -/
theorem withoutCodes_tables_ne :
    let notes : List Note := [⟨some "1".toList, some "Milk".toList, false, none, none⟩]
    let q := Query.parse .default "tag:".toList
    withoutCodes (notesTable true notes 1) ≠ notesTable false notes 1 ∧
      withoutCodes (tokensTable true q) ≠ tokensTable false q ∧
      endedLines (withoutCodes (tokensTable true q)) = [tokensHeading, "1    tag     ".toList] ∧
      endedLines (tokensTable false q) = [tokensHeading, "1    tag".toList] := by
  decide

end NoteSieve
