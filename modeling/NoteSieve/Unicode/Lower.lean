import NoteSieve.Unicode.Case

/-!
# Texts in lower case

A text is put in lower case character by character, with one exception: the Greek capital sigma has
two lower case forms. It takes the final form at the end of a word, which means that a letter with
case stands before it and none after it, where characters such as marks and apostrophes are passed
over in the search for a neighbour.
-/

namespace NoteSieve.Unicode

/-- Whether the next character that is not passed over has case. -/
def casedFirst (s : List Char) : Bool :=
  match s.dropWhile isCaseIgnorable with
  | [] => false
  | c :: _ => isCased c

/-- Whether a sigma between two texts ends a word. The text before it is given backwards. -/
def endsWord (before after : List Char) : Bool := casedFirst before && !casedFirst after

/-- Puts a text in lower case, given backwards what stands before it. -/
def lowerFrom (before : List Char) : List Char → List Char
  | [] => []
  | c :: rest =>
    (if c = 'Σ' then [if endsWord before rest then 'ς' else 'σ'] else lowerChar c)
      ++ lowerFrom (c :: before) rest

/-- **A text in lower case**, with the rule for a final sigma. -/
def lower (s : List Char) : List Char := lowerFrom [] s

/-- A text in lower case, each character on its own. -/
def lowerEach (s : List Char) : List Char := s.flatMap lowerChar

end NoteSieve.Unicode
