import NoteSieve.Proofs.Search.Spelling
import NoteSieve.Proofs.Text.Lines

/-!
# Searching a title

The title of a note is the first line of its content, and it is folded on its own, while a search of
the content folds all of it. The two folds could differ: the form of a sigma at the end of the title
depends on the letter behind it, and a mark may open the next line. But a line feed is inert
(`NoteSieve.Unicode.isInert_lineFeed`), so a fold is cut at each of them, and **a text without a
line feed is found in a content exactly if it is found in one of its lines**
(`NoteSieve.Text.fold_infix_iff_exists_line`).

The title is the first of these lines. So what is found in the title is found in the content
(`NoteSieve.titleFilter_content`), and a content of one line is its title.
-/

namespace NoteSieve

open Unicode

namespace Text

variable {s t u v : Text} {q : Char}

/-! ### Lines -/

/-- A text without a character is found on one side of it or on the other. -/
theorem infix_append_cons_iff (hq : q ∉ t) : t <:+: u ++ q :: v ↔ t <:+: u ∨ t <:+: v := by
  constructor
  · rintro ⟨a, b, h⟩
    rw [List.append_assoc] at h
    rcases List.append_eq_append_iff.mp h with ⟨x, rfl, hx⟩ | ⟨x, rfl, hx⟩
    · -- The text begins before the character, so it ends there too.
      rcases List.append_eq_append_iff.mp hx with ⟨y, rfl, -⟩ | ⟨y, rfl, hy⟩
      · exact Or.inl ⟨a, y, List.append_assoc a t y⟩
      · cases y with
        | nil => exact Or.inl ⟨a, [], by simp⟩
        | cons d y =>
          obtain ⟨rfl, -⟩ := List.cons.inj hy
          exact absurd (by simp) hq
    · cases x with
      | nil =>
        cases t with
        | nil => exact Or.inl List.nil_infix
        | cons d t =>
          obtain ⟨rfl, -⟩ := List.cons.inj hx
          exact absurd List.mem_cons_self hq
      | cons d x =>
        obtain ⟨-, rfl⟩ := List.cons.inj hx
        exact Or.inr ⟨x, b, List.append_assoc x t b⟩
  · rintro (⟨a, b, rfl⟩ | ⟨a, b, rfl⟩)
    · exact ⟨a, b ++ q :: v, by simp⟩
    · exact ⟨u ++ q :: a, b, by simp⟩

/-- **A text of one line is found in a content exactly if it is found in one of the lines.** -/
theorem fold_infix_iff_exists_line (c : Comparison) (ht : '\n' ∉ t) (s : Text) :
    fold c t <:+: fold c s ↔ ∃ line ∈ lines s, fold c t <:+: fold c line := by
  have hfold : '\n' ∉ fold c t := mt (mem_fold_iff isInert_lineFeed c).mp ht
  -- The induction takes the lines off the front one by one.
  obtain ⟨n, hn⟩ : ∃ n, s.length = n := ⟨_, rfl⟩
  induction n using Nat.strongRecOn generalizing s with
  | _ n ih =>
    by_cases h : '\n' ∈ s
    · obtain ⟨u, v, rfl, hu⟩ := List.eq_append_cons_of_mem h
      have hlength : v.length < n := by
        rw [← hn, List.length_append, List.length_cons]
        omega
      have hv : fold c t <:+: fold c v ↔ ∃ line ∈ lines v, fold c t <:+: fold c line :=
        ih v.length hlength v rfl
      rw [fold_append_cons isInert_lineFeed, infix_append_cons_iff hfold, hv, lines_append_cons,
        lines_eq_singleton hu, List.singleton_append, List.exists_mem_cons_iff]
    · simp [lines_eq_singleton h]

end Text

open Text

/-! ### Titles -/

variable {R : Type} [Searchable R NoteField]

theorem titleFilter_holds_iff {t : Text} {r : R} : (titleFilter t).holds r = true ↔
    ∃ s, Searchable.text? r NoteField.content = some s ∧
      fold .loose t <:+: fold .loose s.firstLine := by
  simp only [titleFilter, Predicate.firstLineContains_holds_iff, Pattern.foundIn_iff,
    Pattern.of_operand, Pattern.of_comparison]

/-- What is found in a title has no line feed, as the title has none. -/
theorem lineFeed_not_mem_of_titleFilter {t : Text} {r : R} (h : (titleFilter t).holds r = true) :
    '\n' ∉ t := by
  obtain ⟨s, -, hfound⟩ := titleFilter_holds_iff.mp h
  intro ht
  have hfold : '\n' ∈ fold .loose s.firstLine :=
    hfound.subset ((mem_fold_iff isInert_lineFeed _).mpr ht)
  exact lineFeed_not_mem_firstLine s ((mem_fold_iff isInert_lineFeed _).mp hfold)

/-- **What is found in the title is found in the content**, and in a content without a line feed
nothing else is. -/
theorem titleFilter_content (t : Text) (r : R) :
    ((titleFilter t).holds r = true →
      (Predicate.contains NoteField.content (.of t .loose)).holds r = true) ∧
    ((∀ s, Searchable.text? r NoteField.content = some s → '\n' ∉ s) →
      (titleFilter t).holds r = (Predicate.contains NoteField.content (.of t .loose)).holds r) := by
  constructor
  · intro h
    obtain ⟨s, hs, hfound⟩ := titleFilter_holds_iff.mp h
    rw [Pattern.contains_holds_iff hs,
      fold_infix_iff_exists_line .loose (lineFeed_not_mem_of_titleFilter h)]
    exact ⟨s.firstLine, firstLine_mem_lines s, hfound⟩
  · intro hline
    rw [Bool.eq_iff_iff, titleFilter_holds_iff, Predicate.contains_holds_iff]
    refine exists_congr fun s => and_congr_right fun hs => ?_
    rw [firstLine_eq_self (hline s hs), Pattern.foundIn_iff, Pattern.of_operand,
      Pattern.of_comparison]

/-- A title that ends in a final sigma is found with the next line opened by a mark, and on its
own. -/
theorem titleFilter_content_odos :
    (titleFilter "ΟΔΟΣ".toList).holds
      (⟨none, some "Οδός\n\u0301α".toList, false, none, none⟩ : Note) = true ∧
    (Predicate.contains NoteField.content (.of "ΟΔΟΣ".toList .loose)).holds
      (⟨none, some "Οδός\n\u0301α".toList, false, none, none⟩ : Note) = true ∧
    (∀ s, (some "Οδός".toList : Option Text) = some s → '\n' ∉ s) ∧
    (titleFilter "ΔΟΣ".toList).holds
        (⟨none, some "Οδός".toList, false, none, none⟩ : Note)
      = (Predicate.contains NoteField.content (.of "ΔΟΣ".toList .loose)).holds
        (⟨none, some "Οδός".toList, false, none, none⟩ : Note) := by
  have htitle : (titleFilter "ΟΔΟΣ".toList).holds
      (⟨none, some "Οδός\n\u0301α".toList, false, none, none⟩ : Note) = true := by decide +kernel
  have hline : ∀ s, (some "Οδός".toList : Option Text) = some s → '\n' ∉ s := by
    rintro s ⟨⟩
    decide
  exact ⟨htitle, (titleFilter_content _ _).1 htitle, hline, (titleFilter_content _ _).2 hline⟩

end NoteSieve
