import NoteSieve.Proofs.Filter.Query
import NoteSieve.Proofs.Search.Spelling
import NoteSieve.Proofs.Tags.Written
import NoteSieve.Proofs.Text.Respelling

/-!
# Searching for a respelled query

A filter of notes knows the words of a query by their folds alone: it folds a keyword and looks for
it in the folded content, and it writes the name of a tag as the array of tags does and folds what
is written. As the characters that are added in writing are inert, this is the written fold
(`NoteSieve.Text.fold_quotedTag`), so the name, too, counts by its fold.

Hence **two queries with the same kinds of tokens and the same folds let the same notes pass**, and
how the words are spelled makes no difference (`NoteSieve.Query.noteFilter_respelled`). A bare
operator is the exception that `NoteSieve.Text.Alike` provides for: it asks for nothing, while a tag
of nothing but marks, with the same empty fold, asks for two quotes next to each other.
-/

namespace NoteSieve

open Text Unicode

/-! ### Tokens -/

/-- Two tokens of one kind whose texts are related. -/
inductive Token.Related (related : Text → Text → Prop) : Token → Token → Prop
  /-- Two keywords. -/
  | keyword {s t : Text} : related s t → Related related (.keyword s) (.keyword t)
  /-- Two tags. -/
  | tag {s t : Text} : related s t → Related related (.tag s) (.tag t)

theorem Token.Related.imp {r r' : Text → Text → Prop} {t u : Token} (h : t.Related r u)
    (himp : ∀ s s', r s s' → r' s s') : t.Related r' u := by
  cases h with
  | keyword h => exact .keyword (himp _ _ h)
  | tag h => exact .tag (himp _ _ h)

section Notes

variable {R : Type} [Searchable R NoteField]

/-- **Tokens that are alike ask for the same.** -/
theorem Token.Related.noteFilter_holds {t u : Token} (h : t.Related Text.Alike u) (r : R) :
    t.noteFilter.holds r = u.noteFilter.holds r := by
  cases h with
  | @keyword s t h =>
    have hfound : (Pattern.of s .loose).foundIn = (Pattern.of t .loose).foundIn :=
      funext fun _ => Pattern.foundIn_congr h.fold_eq rfl
    rw [noteFilter, noteFilter, Predicate.holds, Predicate.holds, hfound]
  | @tag s t h =>
    have hquoted : s.quotedTag.fold .loose = t.quotedTag.fold .loose := by
      rw [fold_quotedTag, fold_quotedTag, h.fold_eq]
    have hempty : s.isEmpty = t.isEmpty := by
      rw [Bool.eq_iff_iff, List.isEmpty_iff, List.isEmpty_iff, h.eq_nil_iff]
    rw [noteFilter, noteFilter, hempty]
    split
    · rfl
    · have hfound :
          (Pattern.of s.quotedTag .loose).foundIn = (Pattern.of t.quotedTag .loose).foundIn :=
        funext fun _ => Pattern.foundIn_congr hquoted rfl
      rw [Predicate.holds, Predicate.holds, hfound]

/-! ### Queries -/

/-- Queries whose tokens are alike, place by place, let the same records pass. -/
theorem Query.noteFilter_holds_congr {p q : Query}
    (h : List.Forall₂ (Token.Related Text.Alike) p.tokens q.tokens) (r : R) :
    p.noteFilter.holds r = q.noteFilter.holds r := by
  rw [noteFilter_holds, noteFilter_holds]
  generalize p.tokens = ts at h ⊢
  generalize q.tokens = us at h ⊢
  induction h with
  | nil => rfl
  | cons htoken _ ih => rw [List.all_cons, List.all_cons, htoken.noteFilter_holds, ih]

end Notes

/-- **A respelled query asks for the same.** Two queries let the same notes pass if their tokens are
of the same kinds, place by place, with texts that have the same fold and are empty together. So
neither case nor accents nor the composition of accented letters matter: it is enough that the text
of each token is another spelling of the text in its place, whatever slashes and backslashes there
are in the name of a tag. -/
theorem Query.noteFilter_respelled {R : Type} [Searchable R NoteField] :
    (∀ p q : Query, List.Forall₂ (Token.Related Text.Alike) p.tokens q.tokens →
      ∀ r : R, p.noteFilter.holds r = q.noteFilter.holds r) ∧
    ∀ p q : Query, List.Forall₂ (Token.Related Respelled) p.tokens q.tokens →
      ∀ r : R, p.noteFilter.holds r = q.noteFilter.holds r := by
  refine ⟨fun p q h r => noteFilter_holds_congr h r, fun p q h r => noteFilter_holds_congr ?_ r⟩
  exact h.imp fun t u htu => htu.imp fun s s' hs => Respelled.alike hs

/-- In capitals and without its accents a query finds what it finds as it was typed, also by a tag
with a slash and a backslash in it. -/
theorem Query.noteFilter_respelled_cafe :
    let p := parse .default "CAFÉ tag:ΟΔΟΣ/É\\".toList
    let q := parse .default "cafe TAG:οδος/e\u0301\\".toList
    let n : Note := ⟨none, some "Café".toList, false, none, some "[\"Οδος\\/É\\\\\"]".toList⟩
    p.noteFilter.holds n = true ∧ q.noteFilter.holds n = p.noteFilter.holds n := by
  intro p q n
  obtain ⟨hsame, hrespelled⟩ := noteFilter_respelled (R := Note)
  have hp : p.tokens = [.keyword "CAFÉ".toList, .tag "ΟΔΟΣ/É\\".toList] := by decide +kernel
  have hq : q.tokens = [.keyword "cafe".toList, .tag "οδος/e\u0301\\".toList] := by decide +kernel
  have hn : q.noteFilter.holds n = true := by decide +kernel
  have hkeyword : Respelled "CAFÉ".toList "cafe".toList := by
    have hlower : Respelling "CAFÉ".toList "café".toList := .case (by decide +kernel)
    have hapart : Respelling "café".toList ("cafe".toList ++ (['\u0301'] ++ [])) :=
      .composition (by decide +kernel)
    have haccent := Respelling.accent "cafe".toList [] (c := '\u0301') (by decide)
      (by decide) (Or.inl (by decide))
    exact .trans _ _ _ (.rel _ _ hlower) (.trans _ _ _ (.rel _ _ hapart) (.rel _ _ haccent))
  have htag : Respelled "ΟΔΟΣ/É\\".toList "οδος/e\u0301\\".toList := by
    have hlower : Respelling "ΟΔΟΣ/É\\".toList "οδος/é\\".toList := .case (by decide)
    have hapart : Respelling "οδος/é\\".toList "οδος/e\u0301\\".toList :=
      .composition (by decide +kernel)
    exact .trans _ _ _ (.rel _ _ hlower) (.rel _ _ hapart)
  have htokens : List.Forall₂ (Token.Related Respelled) p.tokens q.tokens := by
    rw [hp, hq]
    exact .cons (.keyword hkeyword) (.cons (.tag htag) .nil)
  have halike : List.Forall₂ (Token.Related Text.Alike) p.tokens q.tokens :=
    htokens.imp fun t u htu => htu.imp fun s s' hs => Respelled.alike hs
  exact ⟨(hrespelled p q htokens n).trans hn, (hsame p q halike n).symm⟩

end NoteSieve
