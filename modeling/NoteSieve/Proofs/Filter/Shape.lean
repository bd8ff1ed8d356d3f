import NoteSieve.Proofs.Filter.Search

/-!
# The shape of an untagged note as a pattern

A filter shows the shape of the tags of an untagged note as a pattern, which a store may match by
itself, while what the shape accepts (`NoteSieve.Shape.isUntagged`) is found out by hand. Here are
the patterns that this is one of: alternatives, each of them a row of characters and runs of white
space (`NoteSieve.Shape.Piece`), with the source that such a pattern has
(`NoteSieve.Shape.sourceOf`) and the texts that it matches from end to end
(`NoteSieve.Shape.Matches`).

**What is shown is what is run.** The source of the shape is that of three alternatives
(`NoteSieve.Shape.source_untagged`), and the texts it accepts are those that one of the three
matches (`NoteSieve.Shape.accepts_untagged_iff_matches`).
-/

namespace NoteSieve.Shape

open Unicode

/-! ### Patterns and their source -/

/-- A piece of a pattern. -/
inductive Piece where
  /-- A character, as it is. -/
  | literal (c : Char)
  /-- White space of any length, or none. -/
  | blanks
  deriving DecidableEq, Repr

/-- Whether a character has a meaning of its own in a pattern, unless a backslash stands before
it. -/
def isSpecial (c : Char) : Bool := "\\.+*?()|[]\x7b\x7d^$".toList.contains c

/-- A piece as it is written in a pattern. -/
def Piece.source : Piece → Text
  | literal c => if isSpecial c then ['\\', c] else [c]
  | blanks => "\\s*".toList

/-- **The source of a pattern with these alternatives**, which is anchored at both ends of the
text. -/
def sourceOf (alternatives : List (List Piece)) : Text :=
  "^(?:".toList
    ++ Text.joinWith ['|'] (alternatives.map fun pieces => pieces.flatMap Piece.source)
    ++ ")$".toList

/-- The alternatives for the tags of an untagged note. -/
def untaggedAlternatives : List (List Piece) :=
  [[], "null".toList.map .literal, [.blanks, .literal '[', .blanks, .literal ']', .blanks]]

theorem source_untagged : untagged.source = sourceOf untaggedAlternatives := by
  decide

/-! ### The texts that a row of pieces matches -/

/-- **A row of pieces matches the whole of a text.** -/
inductive Matches : List Piece → Text → Prop
  | nil : Matches [] []
  | literal {c : Char} {pieces : List Piece} {s : Text} :
      Matches pieces s → Matches (.literal c :: pieces) (c :: s)
  | blanks {blank : Text} {pieces : List Piece} {s : Text} :
      (∀ c ∈ blank, isBlank c = true) → Matches pieces s → Matches (.blanks :: pieces) (blank ++ s)

variable {pieces : List Piece} {s : Text} {c : Char}

theorem matches_nil_iff : Matches [] s ↔ s = [] := by
  constructor
  · rintro ⟨⟩
    rfl
  · rintro rfl
    exact Matches.nil

theorem matches_literal_cons_iff :
    Matches (.literal c :: pieces) s ↔ ∃ rest, s = c :: rest ∧ Matches pieces rest := by
  constructor
  · rintro (_ | hrest)
    exact ⟨_, rfl, hrest⟩
  · rintro ⟨rest, rfl, hrest⟩
    exact Matches.literal hrest

theorem matches_blanks_cons_iff : Matches (.blanks :: pieces) s ↔
    ∃ blank rest, s = blank ++ rest ∧ (∀ d ∈ blank, isBlank d = true) ∧ Matches pieces rest := by
  constructor
  · rintro (_ | _ | ⟨hblank, hrest⟩)
    exact ⟨_, _, rfl, hblank, hrest⟩
  · rintro ⟨blank, rest, rfl, hblank, hrest⟩
    exact Matches.blanks hblank hrest

/-- A row of characters matches itself only. -/
theorem matches_map_literal_iff {word : Text} : Matches (word.map .literal) s ↔ s = word := by
  induction word generalizing s with
  | nil => exact matches_nil_iff
  | cons c word ih =>
    rw [List.map_cons, matches_literal_cons_iff]
    simp only [ih, exists_eq_right]

theorem matches_brackets_iff :
    Matches [.blanks, .literal '[', .blanks, .literal ']', .blanks] s ↔
      ∃ a b c : Text, s = a ++ '[' :: (b ++ ']' :: c) ∧ ∀ d ∈ a ++ b ++ c, isBlank d = true := by
  simp only [matches_blanks_cons_iff, matches_literal_cons_iff, matches_nil_iff]
  constructor
  · rintro ⟨a, -, rfl, ha, -, rfl, b, -, rfl, hb, -, rfl, c, -, rfl, hc, rfl⟩
    rw [List.append_nil]
    exact ⟨a, b, c, rfl, by
      rw [List.forall_mem_append, List.forall_mem_append]
      exact ⟨⟨ha, hb⟩, hc⟩⟩
  · rintro ⟨a, b, c, rfl, hblank⟩
    rw [List.forall_mem_append, List.forall_mem_append] at hblank
    obtain ⟨⟨ha, hb⟩, hc⟩ := hblank
    exact ⟨a, _, rfl, ha, _, rfl, b, _, rfl, hb, _, rfl, c, [], (List.append_nil c).symm, hc, rfl⟩

/-- **The shape of an untagged note accepts the texts that one of its alternatives matches.** -/
theorem accepts_untagged_iff_matches :
    untagged.accepts s = true ↔ ∃ pieces ∈ untaggedAlternatives, Matches pieces s := by
  rw [accepts_untagged_iff, Text.SaysNoTags, ← matches_nil_iff, ← matches_map_literal_iff,
    ← matches_brackets_iff]
  simp only [untaggedAlternatives, List.mem_cons, List.not_mem_nil, or_false, or_and_right,
    exists_or, exists_eq_left]

end NoteSieve.Shape
