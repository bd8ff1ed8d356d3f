import NoteSieve.Proofs.Text.Code
import NoteSieve.Proofs.Text.Digits
import NoteSieve.Text.Quoted

/-!
# Quoted texts can be read

Between the quotes every character stands for itself or is written behind a backslash: one letter
for a quote, a backslash and the common controls, and the code point in braces for any other
character that is not shown. Here is the reader of such texts, one character at a time
(`NoteSieve.Text.readQuoted?`). It gives back the character whatever follows
(`NoteSieve.Text.readQuoted?_quoteChar`), and a quote of its own ends the text; so **quoted texts
are a code** (`NoteSieve.Text.isCode_quoted`).
-/

namespace NoteSieve.Text

open Unicode

/-- The character that a letter stands for behind a backslash. -/
def quoteLetter? (letter : Char) : Option Char :=
  match letter with
  | '0' => some '\x00'
  | 't' => some '\t'
  | 'r' => some '\r'
  | 'n' => some '\n'
  | '"' => some '"'
  | '\\' => some '\\'
  | _ => none

/-- Reads one character between quotes, or the closing quote. -/
def readQuoted? : Text → Option (Option Char × Text)
  | [] => none
  | '"' :: rest => some (none, rest)
  | '\\' :: 'u' :: '\x7b' :: rest =>
    (digits? 16 (rest.takeWhile (· != '\x7d'))).map fun n =>
      (some (Char.ofNat n), (rest.dropWhile (· != '\x7d')).drop 1)
  | '\\' :: letter :: rest => (quoteLetter? letter).map fun c => (some c, rest)
  | c :: rest => some (some c, rest)

theorem readQuoted?_escapeCodePoint (c : Char) (s : Text) :
    readQuoted? (escapeCodePoint c ++ s) = some (some c, s) := by
  have hdigit : ∀ d < 16, (Nat.digitChar d != '\x7d') = true := by decide
  have hdigits : ∀ d ∈ Nat.toDigits 16 c.toNat, (d != '\x7d') = true := fun d hd => by
    obtain ⟨n, hn, rfl⟩ := exists_digit_of_mem_toDigits (by decide) hd
    exact hdigit n hn
  simp only [escapeCodePoint, List.append_assoc, List.cons_append, List.nil_append]
  rw [readQuoted?, List.takeWhile_append_of_pos hdigits, List.dropWhile_append_of_pos hdigits,
    List.takeWhile_cons_of_neg (by simp), List.dropWhile_cons_of_neg (by simp), List.append_nil,
    digits?_toDigits (by decide) (by decide), Option.map_some, Char.ofNat_toNat]
  rfl

/-- **A character between quotes is read back**, whatever follows it. -/
theorem readQuoted?_quoteChar (c : Char) (s : Text) :
    readQuoted? (quoteChar c ++ s) = some (some c, s) := by
  rw [quoteChar]
  split_ifs with hnull htab hreturn hfeed hquote hback
  · rw [hnull]; rfl
  · rw [htab]; rfl
  · rw [hreturn]; rfl
  · rw [hfeed]; rfl
  · rw [hquote]; rfl
  · rw [hback]; rfl
  · rw [List.singleton_append, readQuoted?]
    · exact fun h => hquote h
    · exact fun _ h _ => hback h
    · exact fun _ _ h _ => hback h
  · exact readQuoted?_escapeCodePoint c s

theorem isCode_quoteChar : IsCode fun c : Option Char => c.elim ['"'] quoteChar := by
  have hread : ∀ (c : Option Char) (s : Text),
      readQuoted? (c.elim ['"'] quoteChar ++ s) = some (c, s) := by
    rintro (_ | c) s
    · rfl
    · exact readQuoted?_quoteChar c s
  exact isCode_of_read hread

/-- **Quoted texts are a code.** -/
theorem isCode_quoted : IsCode quoted := by
  intro s t a b h
  simp only [quoted, List.append_assoc, List.cons_append, List.nil_append, List.cons.injEq,
    true_and] at h
  exact isCode_quoteChar.closed (by simpa using h)

end NoteSieve.Text
