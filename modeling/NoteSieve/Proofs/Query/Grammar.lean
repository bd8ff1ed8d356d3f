import Mathlib.Data.List.Forall2
import NoteSieve.Proofs.Query.Operator
import NoteSieve.Proofs.Text.Words

/-!
# The grammar of search texts

A search text is a sequence of words between white space, and a word is an operator with a name
behind it or a keyword. Here that is said without the reader, in two relations.

| relation | what it says | the reader |
|---|---|---|
| `NoteSieve.Text.Runs` | a text is these words, with white space around them | `words` |
| `NoteSieve.Token.Reads` | a word is read as this token | `Token.ofWord` |

The words of the first relation are as long as they can be: on either side of each is white space
or an end of the text. In the second the primary operator goes before the localized one, and an
operator may be written in any case, which is to say by any characters with its lower case.

**Every text has exactly one reading** (`NoteSieve.Query.parse_iff_grammar`), and its tokens are
those of the query.
-/

namespace NoteSieve

namespace Text

open Unicode

variable {s w : Text} {ws : List Text}

/-! ### Words between white space -/

/-- **A text is words in order**, with white space between two neighbours and perhaps at either
end. -/
inductive Runs : Text → List Text → Prop
  /-- There is no word in an empty text. -/
  | nil : Runs [] []
  /-- White space may stand in front of any text. -/
  | blank {s : Text} {ws : List Text} {c : Char} (hc : isBlank c = true) (h : Runs s ws) :
    Runs (c :: s) ws
  /-- A word may end the text. -/
  | last {w : Text} (hw : IsWord w) : Runs w [w]
  /-- A word in front of others ends at white space. -/
  | word {w s : Text} {ws : List Text} {c : Char} (hw : IsWord w) (hc : isBlank c = true)
    (h : Runs s ws) : Runs (w ++ c :: s) (w :: ws)

theorem Runs.words_eq (h : Runs s ws) : words s = ws := by
  induction h with
  | nil => rfl
  | blank hc _ ih => rw [words_cons hc, ih]
  | last hw => exact hw.words_eq
  | word hw hc _ ih =>
    rw [words_append_cons hc, hw.words_eq, ih]
    rfl

/-- A character that is no white space begins a word, or goes on with the word behind it. -/
theorem Runs.exists_cons {c : Char} (hc : isBlank c = false) (h : Runs s ws) :
    ∃ ws', Runs (c :: s) ws' := by
  have hcons : ∀ {w : Text}, (∀ d ∈ w, isBlank d = false) → IsWord (c :: w) := fun hw =>
    ⟨by simp, List.forall_mem_cons.mpr ⟨hc, hw⟩⟩
  have hone : IsWord [c] := hcons (by simp)
  cases h with
  | nil => exact ⟨_, .last hone⟩
  | blank hd h => exact ⟨_, .word hone hd h⟩
  | last hw => exact ⟨_, .last (hcons hw.not_blank)⟩
  | word hw hd h => exact ⟨_, .word (hcons hw.not_blank) hd h⟩

theorem exists_runs (s : Text) : ∃ ws, Runs s ws := by
  induction s with
  | nil => exact ⟨[], .nil⟩
  | cons c s ih =>
    obtain ⟨ws, h⟩ := ih
    cases hc : isBlank c with
    | true => exact ⟨ws, h.blank hc⟩
    | false => exact h.exists_cons hc

/-- **There is one way to cut a text into words**, and it is the reader's. -/
theorem runs_iff : Runs s ws ↔ words s = ws := by
  refine ⟨Runs.words_eq, ?_⟩
  rintro rfl
  obtain ⟨ws, h⟩ := exists_runs s
  rwa [h.words_eq]

theorem isWord_of_mem_words (h : w ∈ words s) : IsWord w := by
  have hruns : Runs s (words s) := runs_iff.mpr rfl
  generalize words s = ws at h hruns
  induction hruns with
  | nil => simp at h
  | blank _ _ ih => exact ih h
  | last hw => rwa [List.mem_singleton.mp h]
  | word hw _ _ ih =>
    rcases List.mem_cons.mp h with rfl | h
    · exact hw
    · exact ih h

theorem isWord_of_words_eq_singleton (h : words s = [w]) : IsWord w :=
  isWord_of_mem_words (h ▸ List.mem_singleton_self w)

end Text

/-! ### The token of a word -/

namespace Token

open Text Unicode

variable {ops : Operators} {w : Text} {t : Token}

/-- **A word is read as a token**: the primary operator is tried before the localized one, and a
word that begins with neither is a keyword. -/
inductive Reads (ops : Operators) : Text → Token → Prop
  /-- What follows the primary operator is the name of a tag. -/
  | primary {w name : Text} (h : BeginsWith ops.primary w name) : Reads ops w (.tag name)
  /-- Without the primary operator, what follows the localized one is. -/
  | localized {w name : Text} (hprimary : ∀ rest, ¬BeginsWith ops.primary w rest)
    (h : BeginsWith ops.localized w name) : Reads ops w (.tag name)
  /-- Without either the whole word is a keyword. -/
  | keyword {w : Text} (hprimary : ∀ rest, ¬BeginsWith ops.primary w rest)
    (hlocalized : ∀ rest, ¬BeginsWith ops.localized w rest) : Reads ops w (.keyword w)

/-- **A word is read in one way**, which is the reader's. -/
theorem reads_iff : Reads ops w t ↔ Token.ofWord ops w = t := by
  rw [Token.ofWord, Operators.tagOf?_eq]
  constructor
  · rintro (h | ⟨hprimary, h⟩ | ⟨hprimary, hlocalized⟩)
    · rw [afterCaseless?_eq_some_iff.mpr h]
      rfl
    · rw [afterCaseless?_eq_none_iff.mpr hprimary, afterCaseless?_eq_some_iff.mpr h]
      rfl
    · rw [afterCaseless?_eq_none_iff.mpr hprimary, afterCaseless?_eq_none_iff.mpr hlocalized]
      rfl
  · rintro rfl
    cases hprimary : afterCaseless? ops.primary w with
    | some name => exact .primary (afterCaseless?_eq_some_iff.mp hprimary)
    | none =>
      have hprimary := afterCaseless?_eq_none_iff.mp hprimary
      cases hlocalized : afterCaseless? ops.localized w with
      | some name => exact .localized hprimary (afterCaseless?_eq_some_iff.mp hlocalized)
      | none => exact .keyword hprimary (afterCaseless?_eq_none_iff.mp hlocalized)

theorem reads_tag_iff {name : Text} : Reads ops w (.tag name) ↔
    BeginsWith ops.primary w name ∨
      (∀ rest, ¬BeginsWith ops.primary w rest) ∧ BeginsWith ops.localized w name := by
  constructor
  · rintro (h | ⟨hprimary, h⟩ | _)
    · exact Or.inl h
    · exact Or.inr ⟨hprimary, h⟩
  · rintro (h | ⟨hprimary, h⟩)
    · exact .primary h
    · exact .localized hprimary h

theorem forall₂_reads_iff {ws : List Text} {ts : List Token} :
    List.Forall₂ (Reads ops) ws ts ↔ ws.map (Token.ofWord ops) = ts := by
  rw [← List.forall₂_eq_eq_eq, List.forall₂_map_left_iff]
  constructor
  · exact List.Forall₂.imp fun _ _ => reads_iff.mp
  · exact List.Forall₂.imp fun _ _ => reads_iff.mpr

/-- What a token holds ends its word. -/
theorem Reads.text_isSuffix (h : Reads ops w t) : t.text <:+ w := by
  rcases h with ⟨front, rfl, -⟩ | ⟨-, front, rfl, -⟩ | ⟨-, -⟩
  · exact List.suffix_append front _
  · exact List.suffix_append front _
  · exact List.suffix_refl w

theorem Reads.ne_keyword_nil (h : Reads ops w t) (hw : IsWord w) : t ≠ .keyword [] := by
  rintro rfl
  cases h with
  | keyword _ _ => exact hw.ne_nil rfl

end Token

/-! ### The reading of a text -/

namespace Query

open Text Unicode

theorem tokens_eq_singleton_iff {ops : Operators} {s : Text} {t : Token} :
    (parse ops s).tokens = [t] ↔ ∃ w, words s = [w] ∧ Token.Reads ops w t := by
  simp only [Token.reads_iff]
  exact List.map_eq_singleton_iff

/-- **A query implements the grammar.** Its tokens are the readings of the words of the text, one
for each and in their order; the text is cut into words in one way. What a token holds is the end
of its word as it was typed, without white space, and a keyword is never empty. -/
theorem parse_iff_grammar (ops : Operators) (s : Text) (tokens : List Token) :
    ((parse ops s).tokens = tokens ↔
      ∃ ws, Runs s ws ∧ List.Forall₂ (Token.Reads ops) ws tokens) ∧
    ∃! ws, Runs s ws ∧ List.Forall₂ (fun w t => t.text <:+ w ∧ (∀ c ∈ t.text, isBlank c = false) ∧
      t ≠ .keyword []) ws (parse ops s).tokens := by
  have htokens : (parse ops s).tokens = (words s).map (Token.ofWord ops) := rfl
  rw [htokens]
  constructor
  · constructor
    · rintro rfl
      exact ⟨words s, runs_iff.mpr rfl, Token.forall₂_reads_iff.mpr rfl⟩
    · rintro ⟨ws, hruns, hreads⟩
      rw [runs_iff.mp hruns, Token.forall₂_reads_iff.mp hreads]
  · refine ⟨words s, ⟨runs_iff.mpr rfl, ?_⟩, fun ws h => (runs_iff.mp h.1).symm⟩
    rw [List.forall₂_map_right_iff, List.forall₂_same]
    intro w hw
    have hword := isWord_of_mem_words hw
    have hread : Token.Reads ops w (Token.ofWord ops w) := Token.reads_iff.mpr rfl
    exact ⟨hread.text_isSuffix, fun c hc => hword.not_blank c (hread.text_isSuffix.subset hc),
      hread.ne_keyword_nil hword⟩

end Query

end NoteSieve
