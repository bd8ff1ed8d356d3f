import NoteSieve.Proofs.Filter.Suggestion
import NoteSieve.Proofs.Query.Operator
import NoteSieve.Proofs.Text.Words

/-!
# Accepting a suggestion

A suggestion replaces what the search field takes for the word being typed
(`NoteSieve.Text.typedPart`), while the query is read by words between white space of any kind. The
two agree about everything in front of the last blank of a line, and there the tokens stay as they
were. Behind it they differ: a line break ends a word of the query and not the word being typed.

* `NoteSieve.Query.tokens_replaceLastWord_iff`: the tokens of the part being typed go, the token of
  the suggestion comes. **Exactly when no line break stands behind a character of that part** is
  this one token for one word, as a user expects.
* `NoteSieve.Query.completedText_asTag`: once a tag is accepted, the last token is that tag, the
  tag is not suggested any more, and accepting it again changes nothing.
-/

namespace NoteSieve

namespace Query

open Text Unicode

variable {ops : Operators}

theorem tokens_parse (ops : Operators) (s : Text) :
    (parse ops s).tokens = (words s).map (Token.ofWord ops) := rfl

/-! ### The tokens that stay -/

/-- The tokens of a text are those of the part that is kept, then those of the part being typed. -/
theorem tokens_parse_eq_append (ops : Operators) (s : Text) :
    (parse ops s).tokens = (parse ops s.keptPart).tokens ++ (parse ops s.typedPart).tokens := by
  rw [tokens_parse, tokens_parse, tokens_parse, ← List.map_append, ← words_keptPart_append,
    keptPart_append_typedPart]

theorem tokens_replaceLastWord {word : Text} (h : IsWord word) (s : Text) :
    (parse ops (s.replaceLastWord word)).tokens
      = (parse ops s.keptPart).tokens ++ [Token.ofWord ops word] := by
  rw [tokens_parse, words_replaceLastWord h, List.map_append, List.map_singleton, tokens_parse]

/-- **What a suggestion changes.** The tokens of the part being typed go, the token of the
suggestion comes, and the tokens before them stay. This takes away one token for a word that is
being typed and none between two words exactly when no white space stands behind a character of
that part. -/
theorem tokens_replaceLastWord_iff (ops : Operators) (s : Text) {word : Text} (h : IsWord word) :
    (parse ops s).tokens = (parse ops s.keptPart).tokens ++ (parse ops s.typedPart).tokens ∧
    (parse ops (s.replaceLastWord word)).tokens
      = (parse ops s.keptPart).tokens ++ [Token.ofWord ops word] ∧
    ((parse ops (s.replaceLastWord word)).tokens
        = (if s.endsInBlank then (parse ops s).tokens else (parse ops s).tokens.dropLast)
          ++ [Token.ofWord ops word] ↔
      s.typedPart.IsSingle) := by
  refine ⟨tokens_parse_eq_append ops s, tokens_replaceLastWord h s, ?_⟩
  rw [tokens_replaceLastWord h, List.append_left_inj, tokens_parse_eq_append ops s,
    ← endsInBlank_typedPart]
  cases hend : s.typedPart.endsInBlank with
  | true =>
    rw [if_pos rfl, List.self_eq_append_right, tokens_parse, List.map_eq_nil_iff,
      words_eq_nil_iff_isSingle hend]
  | false =>
    have hwords : words s.typedPart ≠ [] := fun hs => by
      rw [endsInBlank_of_words_eq_nil hs] at hend
      exact Bool.noConfusion hend
    have hpos := List.length_pos_iff.mpr hwords
    have hne : (parse ops s.typedPart).tokens ≠ [] := fun hs => hwords (List.map_eq_nil_iff.mp hs)
    rw [if_neg Bool.false_ne_true, ← length_words_eq_one_iff_isSingle hend,
      List.dropLast_append_of_ne_nil hne, List.self_eq_append_right, ← List.length_eq_zero_iff,
      List.length_dropLast, tokens_parse, List.length_map]
    omega

/-- Accepting `home` for the `ho` that is being typed leaves the word before it. -/
theorem tokens_replaceLastWord_home :
    IsWord "home".toList ∧
    (parse .default (replaceLastWord "milk ho".toList "home".toList)).tokens
      = (parse .default "milk ho".toList).tokens.dropLast
        ++ [Token.ofWord .default "home".toList] := by
  have hword : IsWord "home".toList := by decide
  have hiff := (tokens_replaceLastWord_iff .default "milk ho".toList hword).2.2
  exact ⟨hword, hiff.mpr (by decide)⟩

/-- **A word before a line break is lost**: a suggestion for the second line replaces the first
one too. -/
theorem tokens_replaceLastWord_lineBreak :
    (parse .default (replaceLastWord "milk\nho".toList "home".toList)).tokens
      ≠ (parse .default "milk\nho".toList).tokens.dropLast
        ++ [Token.ofWord .default "home".toList] := by
  decide

/-! ### An accepted tag -/

theorem completedText_eq (ops : Operators) (s name : Text) :
    completedText ops s name true = s.replaceLastWord (ops.primary ++ name) := rfl

theorem isWord_primary_append {name : Text} (hop : ∀ c ∈ ops.primary, isBlank c = false)
    (hname : IsWord name) : IsWord (ops.primary ++ name) where
  ne_nil := List.append_ne_nil_of_right_ne_nil _ hname.ne_nil
  not_blank c hc := (List.mem_append.mp hc).elim (hop c) (hname.not_blank c)

/-- A tag that is named in full is not suggested. -/
theorem tagFilter_holds_eq_false {q : Query} {name m : Text} {tag : Tag}
    (hq : q.lastToken? = some (.tag name)) (hname : name ≠ []) (hm : tag.name = some m)
    (hfold : m.fold .caseless = name.fold .caseless) : q.tagFilter.holds tag = false := by
  rw [← Bool.not_eq_true, tagFilter_holds_iff hq]
  exact fun h => (h hname).2 ⟨m, hm, hfold⟩

/-- **An accepted tag is complete.** It is the last token, it is not suggested any more, and
accepting it once more changes nothing. -/
theorem completedText_asTag {ops : Operators} (hop : ∀ c ∈ ops.primary, isBlank c = false)
    {name : Text} (hname : IsWord name) (s : Text) :
    (parse ops (completedText ops s name true)).lastToken? = some (.tag name) ∧
    (∀ tag : Tag, ∀ m, tag.name = some m → m.fold .caseless = name.fold .caseless →
      (parse ops (completedText ops s name true)).tagFilter.holds tag = false) ∧
    completedText ops (completedText ops s name true) name true
      = completedText ops s name true := by
  have hword : IsWord (ops.primary ++ name) := isWord_primary_append hop hname
  have hlast : (parse ops (completedText ops s name true)).lastToken? = some (.tag name) := by
    rw [lastToken?, completedText_eq, tokens_replaceLastWord hword, List.getLast?_concat,
      Token.ofWord_primary_append]
  refine ⟨hlast, fun tag m hm hfold => ?_, ?_⟩
  · exact tagFilter_holds_eq_false hlast hname.ne_nil hm hfold
  · rw [completedText_eq, completedText_eq, replaceLastWord_replaceLastWord]
    intro c hc
    rw [isInlineBlank, hword.not_blank c hc, Bool.false_and]

/-- After a line break, and in the operator's own case or not, an accepted `Home` is complete. -/
theorem completedText_asTag_home :
    (∀ c ∈ Operators.default.primary, isBlank c = false) ∧ IsWord "Home".toList ∧
    (parse .default (completedText .default "milk\n TAG:ho".toList "Home".toList true)).lastToken?
      = some (.tag "Home".toList) := by
  have hop : IsWord Operators.default.primary := by decide
  have hname : IsWord "Home".toList := by decide
  exact ⟨hop.not_blank, hname,
    (completedText_asTag hop.not_blank hname "milk\n TAG:ho".toList).1⟩

end Query

end NoteSieve
