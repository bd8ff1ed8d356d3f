import NoteSieve.Proofs.Toml.Scalar
import NoteSieve.Proofs.Toml.Strings
import NoteSieve.Toml.Reader

/-!
# Lines that are written are read back

A document is read line by line, and each of the lines that a writer of plain tables needs takes the
reader one step further: a blank line (`NoteSieve.Toml.readLines_blank`), a header of one key
(`NoteSieve.Toml.readLines_header`) and a key with a value (`NoteSieve.Toml.readLines_entry`). What
a line adds is said by the operations on tables alone, so a document is read by putting the steps
one behind the other.
-/

namespace NoteSieve.Toml

open Text

variable {key value rest : Text} {v : Toml} {fuel : Nat} {header : List Text} {root : Entries}

/-! ### Keys -/

/-- A key that needs no quotes. -/
structure IsBareKey (key : Text) : Prop where
  /-- There is something to the key. -/
  ne_nil : key ≠ []
  /-- Nothing in the key needs quotes. -/
  isKeyChar : ∀ c ∈ key, isKeyChar c = true

instance (key : Text) : Decidable (IsBareKey key) :=
  decidable_of_iff (key ≠ [] ∧ key.all isKeyChar = true)
    ⟨fun h => ⟨h.1, List.all_eq_true.mp h.2⟩, fun h => ⟨h.ne_nil, List.all_eq_true.mpr h.isKeyChar⟩⟩

/-- The first character of a key is none of those that the reader looks for in front of it. -/
theorem IsBareKey.exists_cons (h : IsBareKey key) : ∃ c t, key = c :: t ∧ isSpace c = false ∧
    c ≠ '\n' ∧ c ≠ '\r' ∧ c ≠ '#' ∧ c ≠ '[' := by
  obtain ⟨c, t, rfl⟩ := List.exists_cons_of_ne_nil h.ne_nil
  have hc := h.isKeyChar c List.mem_cons_self
  have hne : ∀ {d}, Toml.isKeyChar d = false → c ≠ d := fun hd hcd => by
    rw [hcd, hd] at hc
    exact Bool.noConfusion hc
  refine ⟨c, t, rfl, ?_, hne (by decide), hne (by decide), hne (by decide), hne (by decide)⟩
  rw [isSpace, Bool.or_eq_false_iff, beq_eq_false_iff_ne, beq_eq_false_iff_ne]
  exact ⟨hne (by decide), hne (by decide)⟩

theorem IsBareKey.skipSpaces_append (h : IsBareKey key) (rest : Text) :
    skipSpaces (key ++ rest) = key ++ rest := by
  obtain ⟨c, t, rfl, hspace, -⟩ := h.exists_cons
  exact List.dropWhile_cons_of_neg (by simp [hspace])

/-- A key does not end its line. -/
theorem IsBareKey.endLine?_append (h : IsBareKey key) (rest : Text) :
    endLine? (key ++ rest) = none := by
  rw [endLine?, h.skipSpaces_append]
  obtain ⟨c, t, rfl, -, hn, hr, hcomment, -⟩ := h.exists_cons
  have hskip : skipComment (c :: t ++ rest) = c :: t ++ rest := by
    rw [skipComment]
    exact fun s hs => hcomment (List.cons.inj hs).1
  rw [hskip, List.cons_append]
  simp only [startsBreak_cons hn hr, Bool.false_eq_true, if_false]

/-- A key is read up to the first character that is none of a key, and the spaces behind it are
passed over. -/
theorem IsBareKey.readKeys_append (h : IsBareKey key) {c d : Char} {t : Text}
    (hc : Toml.isKeyChar c = false) (hskip : skipSpaces (c :: rest) = d :: t) (hd : d ≠ '.')
    (fuel : Nat) : readKeys (fuel + 1) (key ++ c :: rest) = some ([key], d :: t) := by
  have htake : (key ++ c :: rest).takeWhile Toml.isKeyChar = key := by
    rw [List.takeWhile_append_of_pos h.isKeyChar, List.takeWhile_cons_of_neg (by simp [hc]),
      List.append_nil]
  have hdrop : (key ++ c :: rest).dropWhile Toml.isKeyChar = c :: rest := by
    rw [List.dropWhile_append_of_pos h.isKeyChar, List.dropWhile_cons_of_neg (by simp [hc])]
  have hkey : readKey (key ++ c :: rest) = some (key, c :: rest) := by
    obtain ⟨k, ks, hk⟩ := List.exists_cons_of_ne_nil h.ne_nil
    rw [readKey, htake, hdrop, hk]
  rw [readKeys, h.skipSpaces_append, hkey]
  dsimp only
  rw [hskip]
  split
  · next heq => exact absurd (List.cons.inj heq).1 hd
  · rfl

/-! ### Values -/

/-- A text that is read as a value, up to the end of its line. -/
structure Spells (value : Text) (v : Toml) : Prop where
  /-- It does not begin with a space. -/
  skipSpaces_append : ∀ rest, skipSpaces (value ++ '\n' :: rest) = value ++ '\n' :: rest
  /-- It is read as the value. -/
  readValue_append : ∀ fuel rest,
    readValue (fuel + 1) 0 (value ++ '\n' :: rest) = some (v, '\n' :: rest)

/-- **A written string spells its text.** -/
theorem spells_writeString (s : Text) : Spells (writeString s) (.string s) := by
  have hread : ∀ rest, readString? (writeString s ++ '\n' :: rest) = some (s, '\n' :: rest) :=
    fun rest => readString?_writeString (by simp) (by simp) s
  have hquote : (∃ t, writeString s = '"' :: t) ∨ ∃ t, writeString s = '\'' :: t := by
    rw [writeString]
    cases Form.of s
    · exact Or.inl ⟨_, rfl⟩
    · exact Or.inr ⟨_, rfl⟩
    · exact Or.inl ⟨_, rfl⟩
    · exact Or.inr ⟨_, rfl⟩
  rcases hquote with ⟨t, ht⟩ | ⟨t, ht⟩
  · rw [ht] at hread ⊢
    refine ⟨fun rest => rfl, fun fuel rest => ?_⟩
    rw [List.cons_append, readValue, ← List.cons_append, hread, Option.map_some]
  · rw [ht] at hread ⊢
    refine ⟨fun rest => rfl, fun fuel rest => ?_⟩
    rw [List.cons_append, readValue, ← List.cons_append, hread, Option.map_some]

/-- A word begins with none of the characters that open another value. -/
theorem readValue_word {w : Text} (hne : w ≠ []) (hw : ∀ c ∈ w, isWordChar c = true) (fuel : Nat)
    (rest : Text) : readValue (fuel + 1) 0 (w ++ rest) = readWord (w ++ rest) := by
  obtain ⟨c, t, rfl⟩ := List.exists_cons_of_ne_nil hne
  have hc := hw c List.mem_cons_self
  have hne : ∀ {d}, isWordChar d = false → c ≠ d := fun hd hcd => by
    rw [hcd, hd] at hc
    exact Bool.noConfusion hc
  rw [List.cons_append, readValue]
  · exact fun s hs => hne (by decide) (List.cons.inj hs).1
  · exact fun s hs => hne (by decide) (List.cons.inj hs).1
  · exact fun s hs => hne (by decide) (List.cons.inj hs).1
  · exact fun s hs => hne (by decide) (List.cons.inj hs).1

theorem spells_word {w : Text} (hne : w ≠ []) (hw : ∀ c ∈ w, isWordChar c = true)
    (hv : ∀ rest, readWord (w ++ '\n' :: rest) = some (v, '\n' :: rest)) : Spells w v where
  skipSpaces_append rest := by
    obtain ⟨c, t, rfl⟩ := List.exists_cons_of_ne_nil hne
    have hc := hw c List.mem_cons_self
    have hspace : isSpace c = false := by
      by_contra h
      rw [Bool.not_eq_false, isSpace, Bool.or_eq_true, beq_iff_eq, beq_iff_eq] at h
      rcases h with rfl | rfl
      · exact absurd hc (by decide)
      · exact absurd hc (by decide)
    exact List.dropWhile_cons_of_neg (by simp [hspace])
  readValue_append fuel rest := by rw [readValue_word hne hw, hv]

/-- **A written number spells itself.** -/
theorem spells_ofNat {n : Nat} (hn : n < integerBound) : Spells (ofNat n) (.integer n) :=
  spells_word Nat.toDigits_ne_nil (fun _ hc => isWordChar_of_isDigit (isDigit_of_mem_ofNat hc))
    (readWord_ofNat hn)

/-- **A written truth value spells itself.** -/
theorem spells_ofBool (b : Bool) : Spells (ofBool b) (.boolean b) :=
  spells_word (by cases b <;> decide) (isWordChar_of_mem_ofBool b) (readWord_ofBool b)

/-! ### Lines -/

/-- The line of a key with its value. -/
def entryLine (key value : Text) : Text := key ++ " = ".toList ++ value ++ ['\n']

/-- The line of a header of one key. -/
def headerLine (key : Text) : Text := ['['] ++ key ++ "]\n".toList

theorem length_entryLine (key value : Text) :
    (entryLine key value).length = key.length + value.length + 4 := by
  simp [entryLine]
  omega

theorem readLines_blank (fuel : Nat) (header : List Text) (root : Entries) (rest : Text) :
    readLines (fuel + 1) header root ('\n' :: rest) = readLines fuel header root rest := rfl

/-- **A key with its value** is added to the table of the last header. -/
theorem readLines_entry (hkey : IsBareKey key) (hvalue : Spells value v) (fuel : Nat)
    (header : List Text) (root : Entries) (rest : Text) :
    readLines (fuel + 1) header root (entryLine key value ++ rest)
      = (alongHeader (addNew key v) header root).bind fun root =>
          readLines fuel header root rest := by
  have hline : entryLine key value ++ rest
      = key ++ ' ' :: '=' :: ' ' :: (value ++ '\n' :: rest) := by simp [entryLine]
  have hkeys : readKeys maxDepth (key ++ ' ' :: '=' :: ' ' :: (value ++ '\n' :: rest))
      = some ([key], '=' :: ' ' :: (value ++ '\n' :: rest)) :=
    hkey.readKeys_append (by decide) rfl (by decide) 78
  have hspaces : skipSpaces (' ' :: (value ++ '\n' :: rest)) = value ++ '\n' :: rest :=
    hvalue.skipSpaces_append rest
  have hend : endLine? ('\n' :: rest) = some rest := rfl
  have hadd : addValue (splitLast [key]).1 (splitLast [key]).2 v = addNew key v := rfl
  have hnone := hkey.endLine?_append (' ' :: '=' :: ' ' :: (value ++ '\n' :: rest))
  rw [hline, readLines, hkey.skipSpaces_append]
  obtain ⟨c, t, rfl, -, -, -, -, hbracket⟩ := hkey.exists_cons
  split
  · next h => exact absurd h (by simp)
  · next h => exact absurd (List.cons.inj h).1 hbracket
  · next h => exact absurd (List.cons.inj h).1 hbracket
  · rw [hnone, hkeys]
    simp only [hspaces, hvalue.readValue_append, hadd, bind, Option.bind]
    cases alongHeader (addNew (c :: t) v) header root with
    | none => rfl
    | some root => simp only [hend]

/-- **A header of one key** opens a table of the document. -/
theorem readLines_header (hkey : IsBareKey key) (fuel : Nat) (header : List Text) (root : Entries)
    (rest : Text) : readLines (fuel + 1) header root (headerLine key ++ rest)
      = (openTable [] key root).bind fun root => readLines fuel [key] root rest := by
  have hline : headerLine key ++ rest = '[' :: (key ++ ']' :: '\n' :: rest) := by
    simp [headerLine]
  have hkeys : readKeys maxDepth (key ++ ']' :: '\n' :: rest) = some ([key], ']' :: '\n' :: rest) :=
    hkey.readKeys_append (by decide) rfl (by decide) 78
  have hheader : readHeader [']'] (key ++ ']' :: '\n' :: rest) = some ([key], '\n' :: rest) := by
    rw [readHeader, hkeys]
    rfl
  have hend : endLine? ('\n' :: rest) = some rest := rfl
  have hopen : openTable (splitLast [key]).1 (splitLast [key]).2 root = openTable [] key root := rfl
  have hskip : skipSpaces ('[' :: (key ++ ']' :: '\n' :: rest))
      = '[' :: (key ++ ']' :: '\n' :: rest) := rfl
  rw [hline, readLines, hskip]
  obtain ⟨c, t, rfl, -, -, -, -, hbracket⟩ := hkey.exists_cons
  split
  · next h => exact absurd h (by simp)
  · next h => exact absurd (List.cons.inj (List.cons.inj h).2).1 hbracket
  · next h =>
    obtain rfl := (List.cons.inj h).2
    rw [hheader]
    cases h : openTable [] (c :: t) root with
    | none => simp only [bind, Option.bind, hopen, h]
    | some root => simp only [bind, Option.bind, hopen, h, hend]
  · next h => exact absurd rfl (h _)

end NoteSieve.Toml
