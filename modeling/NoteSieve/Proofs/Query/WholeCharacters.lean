import NoteSieve.Proofs.Query.Operator
import NoteSieve.Proofs.Text.Respelling

/-!
# Operators and whole characters

A character may have a lower case of several characters: the capital I with a dot has two. The
search for an operator takes such a character of the word as a whole, so an operator that ends
between the two is not found there, although the lower case of the word begins with it
(`NoteSieve.Text.afterCaseless?_eq_none_of_part`). What is found is a front of the word, and
**the front is determined by its lower case** (`NoteSieve.Text.append_eq_append_of_lowerEach`), since
no character is empty in lower case. Putting the operator in lower case beforehand makes no
difference, as lower case stays what it is (`NoteSieve.Unicode.lowerEach_lowerEach`).
-/

namespace NoteSieve

namespace Unicode

variable {s : List Char}

/-- **Lower case stays what it is.** -/
theorem lowerEach_lowerEach (s : List Char) : lowerEach (lowerEach s) = lowerEach s := by
  rw [lowerEach, lowerEach, List.flatMap_assoc]
  refine List.flatMap_congr fun c _ => ?_
  rw [List.flatMap_congr fun d hd => lowerChar_of_mem_lowerChar hd, List.flatMap_singleton']

theorem lowerEach_eq_nil_iff : lowerEach s = [] ↔ s = [] := by
  cases s with
  | nil => simp [lowerEach]
  | cons c s => simp [lowerEach, lowerChar_ne_nil]

end Unicode

namespace Text

open Unicode

variable {operator front front' rest rest' part : Text} {c : Char}

/-- **A front of a word is determined by its lower case.** -/
theorem append_eq_append_of_lowerEach (h : front ++ rest = front' ++ rest')
    (hlower : lowerEach front = lowerEach front') : front = front' ∧ rest = rest' := by
  have hmore : ∀ {u v : Text}, lowerEach u = lowerEach (u ++ v) → v = [] := fun {u v} huv => by
    rw [lowerEach_append] at huv
    exact lowerEach_eq_nil_iff.mp (List.self_eq_append_right.mp huv)
  rcases List.append_eq_append_iff.mp h with ⟨x, rfl, rfl⟩ | ⟨x, rfl, rfl⟩
  · obtain rfl := hmore hlower
    simp
  · obtain rfl := hmore hlower.symm
    simp

/-- **No operator ends inside the lower case of a character.** -/
theorem afterCaseless?_eq_none_of_part (hpart : part <+: lowerChar c) (hnil : part ≠ [])
    (hwhole : part ≠ lowerChar c) (h : lowerEach operator = lowerEach front ++ part)
    (back : Text) : afterCaseless? operator (front ++ c :: back) = none := by
  have hafter : after? (lowerChar c) part = none := by
    rw [Option.eq_none_iff_forall_ne_some]
    rintro left hleft
    have hlonger : lowerChar c <+: part := ⟨left, (after?_eq_some_iff.mp hleft).symm⟩
    exact hwhole (hpart.eq_of_length_le hlonger.length_le)
  rw [afterCaseless?, h, afterLower?_append, afterLower?_cons hnil, hafter, Option.bind_none]

/-- **What is found behind an operator.** Something is found exactly if it stands behind a front of
the word that has the operator's lower case, character by character. There is at most one such
front. The operator matters by its lower case only, and may be put in lower case beforehand. And a
front that ends inside the lower case of a character is none. -/
theorem afterCaseless?_exact (operator word : Text) :
    (∀ rest, afterCaseless? operator word = some rest ↔
      ∃ front, word = front ++ rest ∧ lowerEach front = lowerEach operator) ∧
    (∀ front rest front' rest', word = front ++ rest → word = front' ++ rest' →
      lowerEach front = lowerEach operator → lowerEach front' = lowerEach operator →
        front = front' ∧ rest = rest') ∧
    (∀ other, lowerEach other = lowerEach operator →
      afterCaseless? other word = afterCaseless? operator word) ∧
    afterCaseless? (lowerEach operator) word = afterCaseless? operator word ∧
    ∀ front c back part, word = front ++ c :: back → part <+: lowerChar c → part ≠ [] →
      part ≠ lowerChar c → lowerEach operator = lowerEach front ++ part →
        afterCaseless? operator word = none := by
  have hcongr : ∀ other, lowerEach other = lowerEach operator →
      afterCaseless? other word = afterCaseless? operator word := fun other h => by
    rw [afterCaseless?, h, afterCaseless?]
  refine ⟨fun rest => afterCaseless?_eq_some_iff, ?_, hcongr, ?_, ?_⟩
  · intro front rest front' rest' hword hword' hfront hfront'
    exact append_eq_append_of_lowerEach (hword.symm.trans hword') (hfront.trans hfront'.symm)
  · exact hcongr _ (lowerEach_lowerEach operator)
  · rintro front c back part rfl hpart hnil hwhole h
    exact afterCaseless?_eq_none_of_part hpart hnil hwhole h back

/-- A capital I with a dot is an i with a dot behind it, and it is not an i with something behind
it. -/
theorem afterCaseless?_exact_dottedI :
    lowerEach ['\u0130'] = lowerEach ['I', '\u0307'] ∧
    afterCaseless? ['I', '\u0307'] ['\u0130', 'x'] = some ['x'] ∧
    (∀ front rest, ['\u0130', 'x'] = front ++ rest →
      lowerEach front = lowerEach ['I', '\u0307'] → front = ['\u0130']) ∧
    afterCaseless? ['\u0130'] ['\u0130', 'x'] = some ['x'] ∧
    ['i'] <+: lowerChar '\u0130' ∧ ['i'] ≠ lowerChar '\u0130' ∧
    afterCaseless? ['I'] ['\u0130', 'x'] = none := by
  have hlower : lowerEach ['\u0130'] = lowerEach ['I', '\u0307'] := by decide
  have hpart : ['i'] <+: lowerChar '\u0130' := by decide
  have hwhole : ['i'] ≠ lowerChar '\u0130' := by decide
  obtain ⟨hfound, hfront, hother, -⟩ := afterCaseless?_exact ['I', '\u0307'] ['\u0130', 'x']
  have hsome := (hfound ['x']).mpr ⟨['\u0130'], rfl, hlower⟩
  refine ⟨hlower, hsome, fun front rest h hl => ?_, ?_, hpart, hwhole, ?_⟩
  · exact (hfront front rest ['\u0130'] ['x'] h rfl hl hlower).1
  · rw [hother ['\u0130'] hlower, hsome]
  · exact (afterCaseless?_exact ['I'] ['\u0130', 'x']).2.2.2.2 [] '\u0130' ['x'] ['i'] rfl hpart
      (List.cons_ne_nil _ _) hwhole (by decide)

end Text

end NoteSieve
