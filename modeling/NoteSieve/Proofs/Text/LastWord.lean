import NoteSieve.Proofs.Text.Words

/-!
# What another last word keeps

A search field replaces the word being typed by cutting the text at every blank of a line, dropping
the last fragment and joining what is left with spaces. Two blanks in a row leave an empty fragment
between them, and so does a blank at either end of the text. None of these may be lost, nor one be
added.

**Nothing is**: the text up to its last blank of a line stays where it is, fragment by fragment, and
only the word put in last shows (`NoteSieve.Text.replaceLastWord_keeps`).
-/

namespace NoteSieve.Text

open Unicode

variable {s w : Text} {c : Char}

/-- What is kept ends where the word being typed begins: at a blank of a line, or at the front. -/
theorem isInlineBlank_of_mem_getLast?_keptPart (h : c ∈ (keptPart s).getLast?) :
    isInlineBlank c = true := by
  rcases keptPart_eq_nil_or s with hk | ⟨front, d, hd, hk⟩
  · rw [hk] at h
    exact absurd h (by simp)
  · rw [hk, List.getLast?_concat] at h
    rwa [← Option.mem_some.mp h]

/-- **The fragments in front of the last one stay**, the empty ones too, and those of the new word
follow. -/
theorem fragments_replaceLastWord (s w : Text) :
    fragments isInlineBlank (replaceLastWord s w)
      = (fragments isInlineBlank s).dropLast ++ fragments isInlineBlank w := by
  have hspaces : ∀ t : Text,
      fragments isInlineBlank (t.map spaceOfBlank) = fragments isInlineBlank t :=
    fragments_map (fun c hc => (isInlineBlank_spaceOfBlank c).trans hc)
      fun c => spaceOfBlank_of_not_inline
  rw [replaceLastWord_eq, dropLast_fragments]
  rcases keptPart_eq_nil_or s with hk | ⟨front, c, hc, hk⟩
  · rw [hk]
    rfl
  · have hspace : isInlineBlank (spaceOfBlank c) = true := (isInlineBlank_spaceOfBlank c).trans hc
    rw [hk, List.map_append, List.map_singleton, List.append_assoc, List.singleton_append,
      fragments_append_cons hspace, hspaces, fragments_append_cons hc, fragments_nil,
      List.dropLast_concat]

/-- **What another last word keeps.** The text up to and with its last blank of a line is kept, each
of these blanks as a space, and the new word follows. So all fragments but the last stay in their
places, and a word that was put in without such a blank leaves no trace once another is. -/
theorem replaceLastWord_keeps (s w : Text) :
    (∃ typed, s = keptPart s ++ typed ∧ ∀ c ∈ typed, isInlineBlank c = false) ∧
    (∀ c ∈ (keptPart s).getLast?, isInlineBlank c = true) ∧
    replaceLastWord s w
      = (keptPart s).map (fun c => if isInlineBlank c then ' ' else c) ++ w ∧
    fragments isInlineBlank (replaceLastWord s w)
      = (fragments isInlineBlank s).dropLast ++ fragments isInlineBlank w ∧
    ∀ w₁ : Text, (∀ c ∈ w₁, isInlineBlank c = false) →
      replaceLastWord (replaceLastWord s w₁) w = replaceLastWord s w := by
  refine ⟨⟨typedPart s, (keptPart_append_typedPart s).symm, ?_⟩, ?_, ?_, ?_, ?_⟩
  · exact fun c hc => isInlineBlank_of_mem_typedPart hc
  · exact fun c hc => isInlineBlank_of_mem_getLast?_keptPart hc
  · exact replaceLastWord_eq s w
  · exact fragments_replaceLastWord s w
  · exact fun w₁ hw₁ => replaceLastWord_replaceLastWord hw₁ s w

/-- A line break is kept as a part of a word, a tab becomes a space, and empty fragments stay. -/
theorem replaceLastWord_keeps_lineBreak :
    (∀ c ∈ "a\nb".toList, isInlineBlank c = false) ∧
    replaceLastWord (replaceLastWord "\u3000one\n\t two".toList "a\nb".toList) "six".toList
      = " one\n  six".toList := by
  have hall : ("a\nb".toList.all fun c => !isInlineBlank c) = true := by decide
  have hw : ∀ c ∈ "a\nb".toList, isInlineBlank c = false := fun c hc => by
    simpa using List.all_eq_true.mp hall c hc
  refine ⟨hw, ?_⟩
  rw [(replaceLastWord_keeps "\u3000one\n\t two".toList "six".toList).2.2.2.2 _ hw]
  decide

end NoteSieve.Text
