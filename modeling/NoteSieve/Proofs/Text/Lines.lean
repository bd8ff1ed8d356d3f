import NoteSieve.Proofs.Text.Words

/-!
# Lines

A text is cut into lines at its line feeds (`NoteSieve.Text.lines`), and the title of a note is the
first of them. What is printed is put together the other way round, one line after another, each
with a line feed behind it (`NoteSieve.Text.unlines`).

The second does not undo the first: a part that holds a line feed is more than one line. What
becomes of the parts is `NoteSieve.Text.lines_unlines`, **the lines of a printed text are those
of its parts, in order**; so each part is one line exactly if there is no line feed in any of them,
and it takes no more than counting the lines to tell (`NoteSieve.Text.length_flatMap_lines_eq_iff`).

The end of a printed row is cut off at its last visible character. A line feed is cut off with it,
unless there is something to see behind it (`NoteSieve.Text.Breaks`).
-/

namespace NoteSieve.Text

open Unicode

variable {s t : Text} {parts : List Text} {p : Char → Bool} {c : Char}

/-! ### Cutting at line feeds -/

/-- The lines of a text. Each line feed ends one, and the last one may be empty. -/
def lines (s : Text) : List Text := fragments (· == '\n') s

theorem lines_append_cons (s t : Text) : lines (s ++ '\n' :: t) = lines s ++ lines t :=
  fragments_append_cons rfl s t

theorem lines_eq_singleton (h : '\n' ∉ s) : lines s = [s] := by
  refine fragments_eq_singleton fun c hc => ?_
  rw [beq_eq_false_iff_ne]
  rintro rfl
  exact h hc

theorem lines_ne_nil (s : Text) : lines s ≠ [] := fragments_ne_nil _ s

/-- The last line stands at the end of the text. -/
theorem isSuffix_of_getLast?_lines (h : (lines s).getLast? = some t) : t <:+ s := by
  by_cases hs : '\n' ∈ s
  · -- the last line feed is the first from behind
    obtain ⟨u, v, huv, hu⟩ := List.eq_append_cons_of_mem (List.mem_reverse.mpr hs)
    obtain rfl : s = v.reverse ++ '\n' :: u.reverse := by
      rw [← s.reverse_reverse, huv]
      simp
    have hlast : lines u.reverse = [u.reverse] := lines_eq_singleton (by simpa using hu)
    rw [lines_append_cons, hlast, List.getLast?_concat] at h
    exact Option.some.inj h ▸ (List.suffix_cons _ _).trans (List.suffix_append _ _)
  · rw [lines_eq_singleton hs] at h
    exact Option.some.inj h ▸ List.suffix_rfl

/-- There is one line more than there are line feeds. -/
theorem length_lines (s : Text) : (lines s).length = s.count '\n' + 1 := length_fragments '\n' s

/-! ### The first line -/

theorem firstLine_eq_self (h : '\n' ∉ s) : firstLine s = s := by
  refine List.takeWhile_eq_self_iff.mpr fun c hc => ?_
  rw [bne_iff_ne]
  rintro rfl
  exact h hc

theorem lineFeed_not_mem_firstLine (s : Text) : '\n' ∉ firstLine s := fun h => by
  simpa using List.mem_takeWhile_imp h

theorem firstLine_append_cons (h : '\n' ∉ s) (t : Text) : firstLine (s ++ '\n' :: t) = s := by
  have hs : s.takeWhile (· != '\n') = s := firstLine_eq_self h
  rw [firstLine, List.takeWhile_append, hs, if_pos rfl, List.takeWhile_cons_of_neg (by decide),
    List.append_nil]

/-- **The title is the first of the lines.** -/
theorem firstLine_mem_lines (s : Text) : firstLine s ∈ lines s := by
  by_cases h : '\n' ∈ s
  · obtain ⟨u, v, rfl, hu⟩ := List.eq_append_cons_of_mem h
    rw [firstLine_append_cons hu, lines_append_cons, lines_eq_singleton hu]
    exact List.mem_append_left _ (List.mem_singleton_self u)
  · rw [firstLine_eq_self h, lines_eq_singleton h]
    exact List.mem_singleton_self s

/-! ### Printing line by line -/

/-- The lines of a text that are ended: all but what stands behind the last line feed. -/
def endedLines (s : Text) : List Text := (lines s).dropLast

theorem unlines_cons (s : Text) (parts : List Text) :
    unlines (s :: parts) = s ++ '\n' :: unlines parts := by
  simp [unlines]

/-- **The lines of a printed text are those of its parts**, in order, and nothing stands behind the
last of them. -/
theorem lines_unlines (parts : List Text) :
    lines (unlines parts) = parts.flatMap lines ++ [[]] := by
  induction parts with
  | nil => rfl
  | cons s parts ih =>
    rw [unlines_cons, lines_append_cons, ih, List.flatMap_cons, List.append_assoc]

theorem endedLines_unlines (parts : List Text) :
    endedLines (unlines parts) = parts.flatMap lines := by
  rw [endedLines, lines_unlines, List.dropLast_concat]

theorem lines_unlines_eq_endedLines (parts : List Text) :
    lines (unlines parts) = endedLines (unlines parts) ++ [[]] := by
  rw [endedLines_unlines, lines_unlines]

/-- The last line of what is printed. -/
def lastLine? (s : Text) : Option Text := (endedLines s).getLast?

theorem lastLine?_unlines_concat (parts : List Text) (s : Text) :
    lastLine? (unlines (parts ++ [s])) = (lines s).getLast? := by
  rw [lastLine?, endedLines_unlines, List.flatMap_append, List.flatMap_singleton,
    List.getLast?_append_of_ne_nil _ (lines_ne_nil s)]

theorem unlines_append (parts rest : List Text) :
    unlines (parts ++ rest) = unlines parts ++ unlines rest :=
  List.flatMap_append

/-- **Two texts printed line by line** are line by line alike in what they have of a class of
characters, if they are on the whole and no line of the first has more of it. -/
theorem countP_unlines_map {α : Type} {f g : α → Text} {records : List α}
    (h : ∀ a ∈ records, (f a).countP p ≤ (g a).countP p) :
    (unlines (records.map f)).countP p ≤ (unlines (records.map g)).countP p ∧
      ((unlines (records.map f)).countP p = (unlines (records.map g)).countP p →
        ∀ a ∈ records, (f a).countP p = (g a).countP p) := by
  induction records with
  | nil => exact ⟨Nat.le_refl 0, fun _ => List.forall_mem_nil _⟩
  | cons a records ih =>
    obtain ⟨ha, h⟩ := List.forall_mem_cons.mp h
    obtain ⟨hle, heq⟩ := ih h
    simp only [List.map_cons, unlines_cons, List.countP_append, List.countP_cons]
    refine ⟨by omega, fun hcount => List.forall_mem_cons.mpr ⟨by omega, heq (by omega)⟩⟩

/-- Of two texts that are alike on the whole, no line of one can be cut off more than that of the
other. -/
theorem unlines_map_eq_iff {α : Type} {f g : α → Text} {records : List α}
    (h : ∀ a ∈ records, f a <+: g a) :
    unlines (records.map f) = unlines (records.map g) ↔ ∀ a ∈ records, f a = g a := by
  refine ⟨fun heq a ha => ?_, fun heq => by rw [List.map_congr_left heq]⟩
  have hcount := (countP_unlines_map (p := fun _ => true) fun a ha => (h a ha).sublist.countP_le).2
    (congrArg _ heq) a ha
  simp only [List.countP_true] at hcount
  exact (h a ha).eq_of_length hcount

theorem flatMap_lines_eq_self (h : ∀ s ∈ parts, '\n' ∉ s) : parts.flatMap lines = parts := by
  induction parts with
  | nil => rfl
  | cons s parts ih =>
    obtain ⟨hs, h⟩ := List.forall_mem_cons.mp h
    rw [List.flatMap_cons, lines_eq_singleton hs, ih h, List.singleton_append]

theorem length_le_length_flatMap_lines (parts : List Text) :
    parts.length ≤ (parts.flatMap lines).length := by
  induction parts with
  | nil => exact Nat.zero_le _
  | cons s parts ih =>
    rw [List.flatMap_cons, List.length_append, length_lines, List.length_cons]
    omega

/-- **Each part is one line** exactly if there are as many lines as parts. -/
theorem length_flatMap_lines_eq_iff :
    (parts.flatMap lines).length = parts.length ↔ ∀ s ∈ parts, '\n' ∉ s := by
  refine ⟨fun h => ?_, fun h => by rw [flatMap_lines_eq_self h]⟩
  induction parts with
  | nil => exact List.forall_mem_nil _
  | cons s parts ih =>
    have hle := length_le_length_flatMap_lines parts
    rw [List.flatMap_cons, List.length_append, length_lines, List.length_cons] at h
    have hs : s.count '\n' = 0 := by omega
    exact List.forall_mem_cons.mpr ⟨List.count_eq_zero.mp hs, ih (by omega)⟩

theorem flatMap_lines_eq_self_iff : parts.flatMap lines = parts ↔ ∀ s ∈ parts, '\n' ∉ s :=
  ⟨fun h => length_flatMap_lines_eq_iff.mp (congrArg List.length h), flatMap_lines_eq_self⟩

/-- A text without line breaks is one line. -/
theorem unlines_eq_iff (hs : '\n' ∉ s) : unlines parts = unlines [s] ↔ parts = [s] := by
  refine ⟨fun h => ?_, fun h => by rw [h]⟩
  have hlines : parts.flatMap lines = [s] := by
    rw [← endedLines_unlines, h, endedLines_unlines, List.flatMap_singleton, lines_eq_singleton hs]
  have hlength := length_le_length_flatMap_lines parts
  rw [hlines] at hlength
  match parts, hlength with
  | [], _ => exact absurd hlines (by simp)
  | [t], _ => simpa [unlines] using h

/-! ### The end of a line -/

theorem trimEnd_eq_rdropWhile (p : Char → Bool) (s : Text) : trimEnd p s = s.rdropWhile p := rfl

theorem trimEnd_prefix_self (p : Char → Bool) (s : Text) : trimEnd p s <+: s :=
  List.rdropWhile_prefix p s

/-- A character that is kept keeps all that is in front of it. -/
theorem trimEnd_append (hc : c ∈ t) (hp : p c = false) (s : Text) :
    trimEnd p (s ++ t) = s ++ trimEnd p t := by
  have hne : t.reverse.dropWhile p ≠ [] := fun hnil => by
    have hall := List.dropWhile_eq_nil_iff.mp hnil c (List.mem_reverse.mpr hc)
    simp [hp] at hall
  rw [trimEnd, List.reverse_append, List.dropWhile_append, if_neg (by simpa using hne),
    List.reverse_append, List.reverse_reverse, trimEnd]

/-- A text is left as it is if it is empty or ends in something to see. -/
theorem trimEnd_eq_self_iff : s.trimEnd isBlank = s ↔ s ≠ [] → endsInBlank s = false := by
  rcases List.eq_nil_or_concat' s with rfl | ⟨front, c, rfl⟩
  · simp [trimEnd]
  · rw [endsInBlank_concat, trimEnd_eq_rdropWhile, List.rdropWhile_eq_self_iff]
    simp

/-- A line feed of a text has something to see behind it, be it next or not. -/
def Breaks (s : Text) : Prop := ∃ c, isBlank c = false ∧ ['\n', c].Sublist s

/-- **A line feed is left of a text** where there is something to see behind it. -/
theorem lineFeed_mem_trimEnd_iff : '\n' ∈ s.trimEnd isBlank ↔ Breaks s := by
  constructor
  · intro h
    -- What is left ends in something to see, and that is not the line feed.
    rcases List.eq_nil_or_concat' (s.trimEnd isBlank) with hnil | ⟨front, c, hs⟩
    · rw [hnil] at h
      exact absurd h List.not_mem_nil
    · have hne : s.rdropWhile isBlank ≠ [] := by rw [← trimEnd_eq_rdropWhile, hs]; simp
      have hlast := List.rdropWhile_last_not isBlank s hne
      have hc : isBlank c = false := by simpa [← trimEnd_eq_rdropWhile, hs] using hlast
      have hfront : '\n' ∈ front := by
        rw [hs, List.mem_append, List.mem_singleton] at h
        refine h.resolve_right ?_
        rintro rfl
        exact absurd hc (by decide)
      refine ⟨c, hc, List.Sublist.trans ?_ (trimEnd_prefix_self isBlank s).sublist⟩
      rw [hs]
      exact (List.singleton_sublist.mpr hfront).append (List.Sublist.refl [c])
  · rintro ⟨c, hc, h⟩
    obtain ⟨a, b, rfl, ha, hb⟩ := List.cons_sublist_iff.mp h
    rw [trimEnd_append (List.singleton_sublist.mp hb) hc]
    exact List.mem_append_left _ ha

instance (s : Text) : Decidable (Breaks s) := decidable_of_iff _ lineFeed_mem_trimEnd_iff

end NoteSieve.Text
