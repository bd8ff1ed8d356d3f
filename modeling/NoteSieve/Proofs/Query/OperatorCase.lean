import NoteSieve.Proofs.Query.Grammar
import NoteSieve.Proofs.Text.FinalSigma
import NoteSieve.Proofs.Unicode.Blank

/-!
# Operators in another case

An operator is found in whatever case it is typed, and a text has two lower cases. The fold of a
search puts the whole text in lower case; the search for an operator goes through the word character
by character, and there a capital sigma is never a final one. An operator typed in capitals is
therefore the same to the one and may be another to the other: `ΕΤΙΚΈΤΕΣ:` and `ετικέτες:` have the
same lower case, and a tag behind the first is not found with the second for the operator
(`NoteSieve.Query.tokens_eq_keyword_of_capitals`).

`NoteSieve.Query.tokens_respelled_iff` says which operators this happens to: **an operator is found
in every spelling with its lower case exactly if no sigma in it ends a word**.
-/

namespace NoteSieve

namespace Text

open Unicode

variable {operator front rest : Text}

/-- Where the rest is known, so is the front that has to be the operator. -/
theorem beginsWith_append_iff :
    BeginsWith operator (front ++ rest) rest ↔ lowerEach front = lowerEach operator := by
  constructor
  · rintro ⟨other, h, hlower⟩
    rwa [List.append_cancel_right h]
  · intro h
    exact ⟨front, rfl, h⟩

/-- A spelling of a text without white space has none either. -/
theorem not_blank_of_lower_eq (h : lower front = lower operator)
    (hop : ∀ c ∈ operator, isBlank c = false) : ∀ c ∈ front, isBlank c = false := by
  intro c hc
  by_contra hblank
  rw [Bool.not_eq_false] at hblank
  have hmem : c ∈ lower operator := by
    rw [← h]
    exact (mem_lower_iff_of_isBlank hblank).mpr hc
  rw [hop c ((mem_lower_iff_of_isBlank hblank).mp hmem)] at hblank
  exact Bool.noConfusion hblank

end Text

namespace Query

open Text Unicode

variable {op front name : Text}

/-- **When a spelling of the operator is found**: if it has the operator's lower case character by
character, or else by way of the localized operator. -/
theorem tokens_spelled_iff (localized : Text) (hfront : ∀ c ∈ front, isBlank c = false)
    (hname : ∀ c ∈ name, isBlank c = false) (hne : front ++ name ≠ []) :
    (parse ⟨op, localized⟩ (front ++ name)).tokens = [.tag name] ↔
      lowerEach front = lowerEach op ∨
        (∀ rest, ¬BeginsWith op (front ++ name) rest) ∧ lowerEach front = lowerEach localized := by
  have hword : IsWord (front ++ name) := ⟨hne, List.forall_mem_append.mpr ⟨hfront, hname⟩⟩
  have hwords : ∀ w, words (front ++ name) = [w] ↔ front ++ name = w := fun w => by
    rw [hword.words_eq, List.cons.injEq, and_iff_left rfl]
  simp only [tokens_eq_singleton_iff, hwords, exists_eq_left', Token.reads_tag_iff,
    beginsWith_append_iff]

/-- **Which operators are found in every case.** Let an operator without white space be given, and a
spelling that has its lower case. In front of a name the spelling is found if it has the operator's
lower case character by character too, or else only by way of the localized operator. All spellings
are found, with any localized operator and in front of any name, exactly if no sigma in the operator
ends a word. -/
theorem tokens_respelled_iff (hop : ∀ c ∈ op, isBlank c = false) :
    (∀ localized front name : Text, lower front = lower op → (∀ c ∈ name, isBlank c = false) →
      front ++ name ≠ [] →
      ((parse ⟨op, localized⟩ (front ++ name)).tokens = [.tag name] ↔
        lowerEach front = lowerEach op ∨
          (∀ rest, ¬BeginsWith op (front ++ name) rest) ∧
            lowerEach front = lowerEach localized)) ∧
    ((∀ localized front name : Text, lower front = lower op → (∀ c ∈ name, isBlank c = false) →
      front ++ name ≠ [] → (parse ⟨op, localized⟩ (front ++ name)).tokens = [.tag name]) ↔
        ¬HasFinalSigma op) := by
  refine ⟨fun localized front name hlower hname hne => ?_, fun hall hfinal => ?_,
    fun hfinal localized front name hlower hname hne => ?_⟩
  · exact tokens_spelled_iff localized (not_blank_of_lower_eq hlower hop) hname hne
  · -- With the same operator for the localized one, the other spelling has to be found as itself.
    obtain ⟨other, hlower, heach⟩ := hfinal.exists_other
    have hother := not_blank_of_lower_eq hlower hop
    have hname : IsWord ['x'] := by decide
    have hne : other ++ ['x'] ≠ [] := List.append_ne_nil_of_right_ne_nil other hname.ne_nil
    have hfound := hall op other ['x'] hlower hname.not_blank hne
    rcases (tokens_spelled_iff op hother hname.not_blank hne).mp hfound with h | ⟨-, h⟩
    · exact heach h
    · exact heach h
  · have heach : lowerEach front = lowerEach op := lowerEach_determined_iff.mpr hfinal front hlower
    exact (tokens_spelled_iff localized (not_blank_of_lower_eq hlower hop) hname hne).mpr
      (Or.inl heach)

/-- A sigma at the front of an operator is no obstacle, nor is a letter that is two in lower
case. -/
theorem tokens_respelled_dotted :
    (∀ c ∈ "σİ:".toList, isBlank c = false) ∧ ¬HasFinalSigma "σİ:".toList ∧
    lower "Σi\u0307:".toList = lower "σİ:".toList ∧ (∀ c ∈ "Home".toList, isBlank c = false) ∧
    (parse ⟨"σİ:".toList, "tag:".toList⟩ "Σi\u0307:Home".toList).tokens = [.tag "Home".toList] := by
  have hop : IsWord "σİ:".toList := by decide
  have hname : IsWord "Home".toList := by decide
  have hfinal : ¬HasFinalSigma "σİ:".toList := not_hasFinalSigma_of_not_mem (by decide)
  have hlower : lower "Σi\u0307:".toList = lower "σİ:".toList := by decide
  exact ⟨hop.not_blank, hfinal, hlower, hname.not_blank,
    (tokens_respelled_iff hop.not_blank).2.mpr hfinal "tag:".toList "Σi\u0307:".toList _ hlower
      hname.not_blank (by decide)⟩

/-- **An operator typed in capitals is missed**: in capitals the last letter of `ετικέτες` is a
sigma that is final in the whole word, and not by itself. -/
theorem tokens_eq_keyword_of_capitals :
    (∀ c ∈ "ετικέτες:".toList, isBlank c = false) ∧
    lower "ΕΤΙΚΈΤΕΣ:".toList = lower "ετικέτες:".toList ∧
    (∀ c ∈ "x".toList, isBlank c = false) ∧
    (parse ⟨"ετικέτες:".toList, "tag:".toList⟩ "ΕΤΙΚΈΤΕΣ:x".toList).tokens
      = [.keyword "ΕΤΙΚΈΤΕΣ:x".toList] := by
  have hop : IsWord "ετικέτες:".toList := by decide
  have hname : IsWord "x".toList := by decide
  exact ⟨hop.not_blank, by decide, hname.not_blank, by decide⟩

end Query

end NoteSieve
