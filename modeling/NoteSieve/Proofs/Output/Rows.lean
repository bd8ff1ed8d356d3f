import NoteSieve.Output.Table
import NoteSieve.Proofs.Output.Style

/-!
# The rows of a table

A table is its rows, one printed behind the other (`NoteSieve.notesTable_eq`,
`NoteSieve.tagsTable_eq`, `NoteSieve.tokensTable_eq`), and a reader takes each line for a row. That
is right as long as no row holds a line feed.

The title of a note is its first line, so it brings none into the row. Keys, tags and names are
shown as they are, and **a record has one line exactly if what is shown of it has no line feed**
(`NoteSieve.rows_one_line_iff`). For a note that means no line feed with something to see behind it
(`NoteSieve.Text.Breaks`), as the end of the row is cut off. The spaces that fill up the columns
make no difference to that, so it can be told from what the cells show
(`NoteSieve.Note.lineFeed_mem_row_iff`).
-/

namespace NoteSieve

open Text Unicode

/-! ### Line feeds in front of something to see -/

/-- Spaces neither break a text nor keep it from breaking. -/
theorem Text.breaks_filter_iff {s : Text} : Breaks (s.filter (· != ' ')) ↔ Breaks s := by
  refine ⟨fun ⟨c, hc, h⟩ => ⟨c, hc, h.trans List.filter_sublist⟩, fun ⟨c, hc, h⟩ => ⟨c, hc, ?_⟩⟩
  have hspace : c ≠ ' ' := by
    rintro rfl
    exact absurd hc (by decide)
  simpa [hspace] using h.filter (· != ' ')

theorem Text.filter_padRight (width : Nat) (s : Text) :
    (s.padRight width).filter (· != ' ') = s.filter (· != ' ') := by
  simp [padRight]

theorem joinWith_three (a b c : Text) :
    joinWith [' '] [a, b, c] = a ++ ' ' :: (b ++ ' ' :: c) := by
  simp [joinWith, List.intercalate_cons_cons]

/-- A row ends in white space where its last cell does, or is empty. -/
theorem endsInBlank_joinWith_three (a b c : Text) :
    endsInBlank (joinWith [' '] [a, b, c]) = endsInBlank c := by
  have hsplit : joinWith [' '] [a, b, c] = (a ++ ' ' :: b) ++ ' ' :: c := by
    simp [joinWith_three]
  rw [hsplit, endsInBlank_append (List.cons_ne_nil _ _)]
  by_cases hc : c = []
  · rw [hc]
    decide
  · exact endsInBlank_append hc [' ']

/-! ### Notes -/

/-- What a row of the notes shows: the shortened key, the shortened title and the tags. -/
def Note.shown (n : Note) : Text :=
  (n.id.getD ['-']).truncate idWidth ++ n.title.truncate titleWidth ++ formatTagList n.tags

/-- The first cell of a row of the notes. -/
def Note.idCell (n : Note) : Text := ((n.id.getD ['-']).truncate idWidth).padRight idWidth

/-- The second cell of a row of the notes. -/
def Note.titleCell (n : Note) : Text := (n.title.truncate titleWidth).padRight titleWidth

/-- The row of a note without color, before its end is cut off. -/
def Note.fullRow (n : Note) : Text :=
  joinWith [' '] [n.idCell, n.titleCell, formatTagList n.tags]

theorem Note.row_plain (n : Note) : n.row false = n.fullRow.trimEnd isBlank := rfl

/-- The row of a note in color ends in a code, so nothing is cut off. -/
theorem Note.row_colored (n : Note) : n.row true = joinWith [' ']
    [Style.dimmed.paint true n.idCell, Style.bold.paint true n.titleCell,
      Style.cyan.paint true (formatTagList n.tags)] := by
  refine trimEnd_eq_self_iff.mpr fun _ => ?_
  rw [endsInBlank_joinWith_three, endsInBlank_paint]

theorem Note.filter_fullRow (n : Note) :
    n.fullRow.filter (· != ' ') = n.shown.filter (· != ' ') := by
  simp [fullRow, idCell, titleCell, shown, joinWith_three, filter_padRight]

/-- **A row holds a line feed** exactly if what it shows has one with something to see behind it. -/
theorem Note.lineFeed_mem_row_iff {n : Note} : '\n' ∈ n.row false ↔ n.shown.Breaks := by
  rw [row_plain, lineFeed_mem_trimEnd_iff, ← breaks_filter_iff, filter_fullRow, breaks_filter_iff]

/-- What the table says where there is no note. -/
def noNotesNotice : Text := unlines ["No notes found.".toList]

/-- **The table of the notes** is the heading, a row for each note and the footer. -/
theorem notesTable_eq (color : Bool) (notes : List Note) (total : Nat) :
    notesTable color notes total = if notes = [] then noNotesNotice
      else unlines (Style.dimmed.paint color notesHeading :: notes.map (Note.row color)
        ++ notesFooter notes.length total) := by
  rw [notesTable]
  simp only [List.isEmpty_iff]
  rfl

/-- How many notes are shown of how many. -/
def footerLine (shown total : Nat) : Text :=
  ofNat shown ++ " of ".toList ++ ofNat total ++ " notes shown".toList

theorem notesFooter_eq (shown total : Nat) :
    notesFooter shown total = if shown < total then [[], footerLine shown total] else [] := rfl

/-- There is nothing but digits and these letters in the footer. -/
theorem not_mem_footerLine {c : Char} (hdigit : isDigit c = false)
    (hc : c ∉ " of notes shown".toList) (shown total : Nat) : c ∉ footerLine shown total := by
  have hnumber : ∀ n, c ∉ ofNat n := fun n => not_mem_ofNat hdigit
  simpa [footerLine, hnumber, not_or, and_assoc] using hc

theorem not_mem_notesFooter {c : Char} (hdigit : isDigit c = false)
    (hc : c ∉ " of notes shown".toList) (shown total : Nat) :
    ∀ s ∈ notesFooter shown total, c ∉ s := by
  rw [notesFooter_eq]
  split
  · simpa using not_mem_footerLine hdigit hc shown total
  · exact List.forall_mem_nil _

theorem length_notesFooter (shown total : Nat) :
    notesFooter shown total = [] ∨ (notesFooter shown total).length = 2 := by
  rw [notesFooter_eq]
  split
  · exact Or.inr rfl
  · exact Or.inl rfl

theorem lines_notesTable (color : Bool) (notes : List Note) (total : Nat) :
    lines (notesTable color notes total) = endedLines (notesTable color notes total) ++ [[]] := by
  rw [notesTable_eq]
  split <;> exact lines_unlines_eq_endedLines _

/-- The lines of the table are the heading, those of each row, and the footer. -/
theorem endedLines_notesTable {notes : List Note} (h : notes ≠ []) (total : Nat) :
    endedLines (notesTable false notes total)
      = notesHeading :: (notes.map (Note.row false)).flatMap lines
        ++ notesFooter notes.length total := by
  have hheading : lines (Style.dimmed.paint false notesHeading) = [notesHeading] :=
    lines_eq_singleton (by decide)
  have hfooter : ∀ s ∈ notesFooter notes.length total, '\n' ∉ s :=
    not_mem_notesFooter (by decide) (by decide) _ _
  rw [notesTable_eq, if_neg h, endedLines_unlines, List.cons_append, List.flatMap_cons,
    List.flatMap_append, hheading, flatMap_lines_eq_self hfooter]
  rfl

/-! ### Tags -/

/-- What the table says where there is no tag. -/
def noTagsNotice : Text := Text.unlines ["No tags found.".toList]

/-- A row of the table: a name behind the operator. -/
def tagRow (color : Bool) (operator name : Text) : Text :=
  Style.dimmed.paint color operator ++ Style.cyan.paint color name

theorem tagsTable_eq (color : Bool) (operator : Text) (tags : List Tag) :
    tagsTable color operator tags = if tags = [] then noTagsNotice
      else Text.unlines ((tags.filterMap Tag.name).map (tagRow color operator)) := by
  rw [tagsTable]
  simp only [List.isEmpty_iff]
  rfl

theorem lines_tagsTable (color : Bool) (operator : Text) (tags : List Tag) :
    lines (tagsTable color operator tags) = endedLines (tagsTable color operator tags) ++ [[]] := by
  rw [tagsTable_eq]
  split <;> exact lines_unlines_eq_endedLines _

theorem endedLines_tagsTable {tags : List Tag} (h : tags.filterMap Tag.name ≠ [])
    (operator : Text) : endedLines (tagsTable false operator tags)
      = ((tags.filterMap Tag.name).map (operator ++ ·)).flatMap lines := by
  have htags : tags ≠ [] := fun hnil => h (by rw [hnil]; rfl)
  rw [tagsTable_eq, if_neg htags, endedLines_unlines]
  rfl

/-! ### Tokens -/

/-- What the table says where there is no token. -/
def noTokensNotice : Text := unlines ["No tokens.".toList]

theorem tokensTable_eq (color : Bool) (q : Query) :
    tokensTable color q = if q.tokens = [] then noTokensNotice
      else unlines (Style.dimmed.paint color tokensHeading
        :: (q.tokens.zipIdx 1).map fun (t, number) => t.row color number) := by
  rw [tokensTable]
  simp only [Query.isEmpty, List.isEmpty_iff]
  rfl

/-! ### One line for each record -/

/-- **Whether each record has one line.** Without color, the lines of the table of some notes are
the heading, those of the row of each note, in order, and the footer, which is empty or two lines.
Those of the table of some tags are those of the row of each name. There is one line for each
record exactly if no line feed in what is shown of a note has something to see behind it, and no
name holds one; and that is also when the lines are as many as they should be. -/
theorem rows_one_line_iff (notes : List Note) (total : Nat) (operator : Text) (tags : List Tag) :
    (notes ≠ [] →
      let rows := notes.map (Note.row false)
      let footer := notesFooter notes.length total
      let printed := endedLines (notesTable false notes total)
      lines (notesTable false notes total) = printed ++ [[]] ∧
      (footer = [] ∨ footer.length = 2) ∧
      printed = notesHeading :: rows.flatMap lines ++ footer ∧
      (printed = notesHeading :: rows ++ footer ↔ ∀ n ∈ notes, ¬n.shown.Breaks) ∧
      (printed.length = 1 + notes.length + footer.length ↔ ∀ n ∈ notes, ¬n.shown.Breaks)) ∧
    ('\n' ∉ operator → tags.filterMap Tag.name ≠ [] →
      let names := tags.filterMap Tag.name
      let rows := names.map (operator ++ ·)
      let printed := endedLines (tagsTable false operator tags)
      lines (tagsTable false operator tags) = printed ++ [[]] ∧
      printed = rows.flatMap lines ∧
      (printed = rows ↔ ∀ name ∈ names, '\n' ∉ name) ∧
      (printed.length = names.length ↔ ∀ name ∈ names, '\n' ∉ name)) := by
  constructor
  · intro hnotes rows footer printed
    have hprinted : printed = notesHeading :: rows.flatMap lines ++ footer :=
      endedLines_notesTable hnotes total
    have hrows : (∀ s ∈ rows, '\n' ∉ s) ↔ ∀ n ∈ notes, ¬n.shown.Breaks := by
      simp only [rows, List.forall_mem_map, Note.lineFeed_mem_row_iff]
    refine ⟨lines_notesTable _ _ _, length_notesFooter _ _, hprinted, ?_, ?_⟩
    · rw [hprinted, ← hrows, ← flatMap_lines_eq_self_iff, List.append_cancel_right_eq,
        List.cons.injEq, eq_self, true_and]
    · have hlength : rows.length = notes.length := List.length_map _
      rw [hprinted, ← hrows, ← length_flatMap_lines_eq_iff, List.length_append, List.length_cons]
      omega
  · intro hoperator hnames names rows printed
    have hprinted : printed = rows.flatMap lines := endedLines_tagsTable hnames operator
    have hrows : (∀ s ∈ rows, '\n' ∉ s) ↔ ∀ name ∈ names, '\n' ∉ name := by
      simp [rows, hoperator]
    refine ⟨lines_tagsTable _ _ _, hprinted, ?_, ?_⟩
    · rw [hprinted, flatMap_lines_eq_self_iff, hrows]
    · have hlength : rows.length = names.length := List.length_map _
      rw [hprinted, ← hrows, ← length_flatMap_lines_eq_iff, hlength]

/-- A line feed at the end of a key goes with the end of the row, and what is behind the first line
of a content is not shown: each of the two notes has one line. -/
theorem rows_one_line_iff_cut :
    let notes : List Note := [⟨some "1\n".toList, none, false, none, none⟩,
      ⟨none, some "Milk\neggs".toList, false, none, some "[\"home\"]".toList⟩]
    let tags : List Tag := [⟨some "work".toList⟩, ⟨none⟩, ⟨some "home".toList⟩]
    (endedLines (notesTable false notes 3)).length = 5 ∧
    endedLines (tagsTable false "#".toList tags) = ["#work".toList, "#home".toList] := by
  intro notes tags
  obtain ⟨hnotes, htags⟩ := rows_one_line_iff notes 3 "#".toList tags
  have hprinted := hnotes (by simp [notes])
  have hsuggested := htags (by decide) (by decide)
  exact ⟨hprinted.2.2.2.2.mpr (by decide +kernel), hsuggested.2.2.1.mpr (by decide)⟩

/-- **A record may have two lines**: a note with a line feed in its key, and a tag with one in its
name. -/
theorem rows_not_one_line :
    endedLines (notesTable false [⟨some "a\nb".toList, none, false, none, none⟩] 1)
        = [notesHeading, "a".toList, "b".toList] ∧
      endedLines (tagsTable false "tag:".toList [⟨some "a\nb".toList⟩])
        = ["tag:a".toList, "b".toList] := by
  decide

end NoteSieve
