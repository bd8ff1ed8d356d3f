/-!
# Texts

A text is a list of characters. Everything the library says about a text is said by recursion over
that list, so a text is cut, searched and joined with the operations of lists; what is added here
are the few that a search needs.
-/

namespace NoteSieve

/-- A text: its characters in order. -/
abbrev Text : Type := List Char

namespace Text

/-! ### Searching -/

/-- **Whether a text occurs in another**, as a run of neighbouring characters. -/
def occursIn (needle : Text) : Text → Bool
  | [] => needle.isEmpty
  | c :: rest => needle.isPrefixOf (c :: rest) || occursIn needle rest

/-- What follows a text at the front of another. -/
def after? (front s : Text) : Option Text :=
  if front.isPrefixOf s then some (s.drop front.length) else none

/-! ### Lines and fragments -/

/-- The text before the first line feed: the title of a note is the first line of its content. -/
def firstLine (s : Text) : Text := s.takeWhile (· != '\n')

/-- Puts a character in front of the first fragment. -/
def consFirst (c : Char) : List Text → List Text
  | [] => [[c]]
  | fragment :: rest => (c :: fragment) :: rest

/-- Cuts a text at each separator. Neighbouring separators leave an empty fragment between them, so
there is always one fragment more than there are separators. -/
def fragments (isSeparator : Char → Bool) : Text → List Text
  | [] => [[]]
  | c :: rest =>
    if isSeparator c then [] :: fragments isSeparator rest
    else consFirst c (fragments isSeparator rest)

/-- A text with the characters of a class cut off at both ends. -/
def trim (isCut : Char → Bool) (s : Text) : Text :=
  ((s.dropWhile isCut).reverse.dropWhile isCut).reverse

/-- A text with the characters of a class cut off at its end. -/
def trimEnd (isCut : Char → Bool) (s : Text) : Text := (s.reverse.dropWhile isCut).reverse

/-! ### Numbers and widths -/

/-- A number in decimal digits. -/
def ofNat (n : Nat) : Text := Nat.toDigits 10 n

/-- A truth value in lower case. -/
def ofBool (b : Bool) : Text := if b then "true".toList else "false".toList

/-- A text filled up with spaces on the right. A longer text is left as it is. -/
def padRight (width : Nat) (s : Text) : Text := s ++ List.replicate (width - s.length) ' '

/-- Texts with a separator between neighbours. -/
def joinWith (separator : Text) (parts : List Text) : Text := List.intercalate separator parts

/-- Each text as a line of its own, the last one ended too. -/
def unlines (lines : List Text) : Text := lines.flatMap (· ++ ['\n'])

/-! ### First laws -/

@[simp]
theorem fragments_nil (p : Char → Bool) : fragments p [] = [[]] := rfl

theorem fragments_ne_nil (p : Char → Bool) (s : Text) : fragments p s ≠ [] := by
  cases s with
  | nil => simp
  | cons c rest =>
    rw [fragments]
    split
    · simp
    · cases fragments p rest <;> simp [consFirst]

theorem occursIn_iff_infix {needle s : Text} : occursIn needle s = true ↔ needle <:+: s := by
  induction s with
  | nil => simp [occursIn]
  | cons c rest ih =>
    rw [occursIn, Bool.or_eq_true, List.isPrefixOf_iff_prefix, ih, List.infix_cons_iff]

theorem after?_eq_some_iff {front s rest : Text} :
    after? front s = some rest ↔ s = front ++ rest := by
  constructor
  · intro h
    rw [after?] at h
    split at h
    · next hpre =>
      obtain ⟨t, rfl⟩ := List.isPrefixOf_iff_prefix.1 hpre
      simpa using h
    · simp at h
  · rintro rfl
    simp [after?]

end Text

end NoteSieve
