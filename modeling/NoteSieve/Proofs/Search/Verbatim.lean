import NoteSieve.Proofs.Query.Completion
import NoteSieve.Proofs.Search.Spelling
import NoteSieve.Proofs.Text.Sigma

/-!
# Searching to the letter and loosely

A keyword is looked for without regard to case and marks, so one expects it to be found wherever it
stands to the letter. It is, as long as the capital sigmas of the keyword have the same form in the
note as in the keyword alone; and **a keyword is found wherever it stands exactly if it has no open
sigma** (`NoteSieve.keyword_finds_verbatim_iff`), one whose form is decided by what stands around
the keyword (`NoteSieve.Text.HasOpenSigma`). The sigma at the end of `ΑΣ` is open:
`NoteSieve.keyword_misses_verbatim`.
-/

namespace NoteSieve

open Text

theorem Query.noteFilter_keyword_holds_iff {ops : Operators} {k s : Text} {n : Note}
    (hword : IsWord k) (htoken : Token.ofWord ops k = .keyword k) (hn : n.content = some s) :
    (parse ops k).noteFilter.holds n = true ↔ fold .loose k <:+: fold .loose s := by
  have htokens : (parse ops k).tokens = [.keyword k] := by
    rw [tokens_parse, hword.words_eq, List.map_singleton, htoken]
  have hfilter : (parse ops k).noteFilter = .all [.contains .content (.of k .loose)] := by
    simp [noteFilter, isEmpty, htokens, Token.noteFilter]
  rw [hfilter, Predicate.holds_all, List.all_cons, List.all_nil, Bool.and_true]
  exact Pattern.contains_holds_iff hn

theorem exactFilter_holds_iff {k : Text} {n : Note} :
    (exactFilter k).holds n = true ↔ ∃ a b, n.content = some (a ++ k ++ b) := by
  rw [exactFilter, Predicate.contains_holds_iff]
  constructor
  · rintro ⟨s, hs, hfound⟩
    obtain ⟨a, b, rfl⟩ : k <:+: s := Pattern.foundIn_iff.mp hfound
    exact ⟨a, b, hs⟩
  · rintro ⟨a, b, hs⟩
    exact ⟨a ++ k ++ b, hs, Pattern.foundIn_iff.mpr (List.infix_append a k b)⟩

/-- **When a keyword is found where it stands to the letter.** It is found wherever its sigmas keep
the form that they have in the keyword alone. It is found in every note that has it to the letter
exactly if none of its sigmas is open. -/
theorem keyword_finds_verbatim_iff {ops : Operators} {k : Text} (hword : IsWord k)
    (htoken : Token.ofWord ops k = .keyword k) :
    (∀ (a b : Text) (n : Note), n.content = some (a ++ k ++ b) → KeepsSigmas a k b →
      (Query.parse ops k).noteFilter.holds n = true) ∧
    ((∀ n : Note, (exactFilter k).holds n = true → (Query.parse ops k).noteFilter.holds n = true) ↔
      ¬HasOpenSigma k) := by
  have hkeeps : ∀ (a b : Text) (n : Note), n.content = some (a ++ k ++ b) → KeepsSigmas a k b →
      (Query.parse ops k).noteFilter.holds n = true := fun a b n hn hkept =>
    (Query.noteFilter_keyword_holds_iff hword htoken hn).mpr hkept.isFound
  refine ⟨hkeeps, fun hall hopen => ?_, fun hclosed n hexact => ?_⟩
  · obtain ⟨a, b, hmissed⟩ := hopen.exists_missed
    let n : Note := ⟨none, some (a ++ k ++ b), false, none, none⟩
    have hfound := hall n (exactFilter_holds_iff.mpr ⟨a, b, rfl⟩)
    exact hmissed ((Query.noteFilter_keyword_holds_iff hword htoken rfl).mp hfound)
  · obtain ⟨a, b, hn⟩ := exactFilter_holds_iff.mp hexact
    exact hkeeps a b n hn (keepsSigmas_of_not_open hclosed a b)

/-- A word is found between blanks, where its last sigma stays a final one. -/
theorem keyword_finds_verbatim_iff_odos :
    IsWord "ΟΔΟΣ".toList ∧ Token.ofWord .default "ΟΔΟΣ".toList = .keyword "ΟΔΟΣ".toList ∧
    KeepsSigmas "Η ".toList "ΟΔΟΣ".toList " ΜΟΥ".toList ∧
    (Query.parse .default "ΟΔΟΣ".toList).noteFilter.holds
      (⟨none, some "Η ΟΔΟΣ ΜΟΥ".toList, false, none, none⟩ : Note) = true := by
  have hword : IsWord "ΟΔΟΣ".toList := by decide
  have htoken : Token.ofWord .default "ΟΔΟΣ".toList = .keyword "ΟΔΟΣ".toList := by decide
  have hkept : KeepsSigmas "Η ".toList "ΟΔΟΣ".toList " ΜΟΥ".toList := by decide
  exact ⟨hword, htoken, hkept,
    (keyword_finds_verbatim_iff hword htoken).1 _ _ _ (by decide) hkept⟩

/-- **A word is missed where it stands to the letter**: at the front of a longer word its last sigma
is no final one. -/
theorem keyword_misses_verbatim :
    IsWord "ΑΣ".toList ∧ Token.ofWord .default "ΑΣ".toList = .keyword "ΑΣ".toList ∧
    (exactFilter "ΑΣ".toList).holds
      (⟨none, some "ΑΣΑ".toList, false, none, none⟩ : Note) = true ∧
    (Query.parse .default "ΑΣ".toList).noteFilter.holds
      (⟨none, some "ΑΣΑ".toList, false, none, none⟩ : Note) = false := by
  refine ⟨by decide, ?_, ?_, ?_⟩ <;> decide +kernel

end NoteSieve
