import NoteSieve.Text.Basic

/-!
# Terminal styles

A style is put around a text by two codes, one that begins it and one that ends it. Without color
the text stands alone, so a styled text without its codes is always the plain one.
-/

namespace NoteSieve

/-- The styles of the tables. -/
inductive Style where
  | dimmed
  | bold
  | cyan
  | green
  deriving DecidableEq, Repr

namespace Style

/-- A code of the terminal with the given number. -/
def code (n : Nat) : Text := ['\x1b', '['] ++ Text.ofNat n ++ ['m']

/-- The numbers of the codes that begin and end a style. -/
def numbers : Style → Nat × Nat
  | dimmed => (2, 0)
  | bold => (1, 0)
  | cyan => (36, 39)
  | green => (32, 39)

/-- A text in a style, if color is wanted. -/
def paint (style : Style) (color : Bool) (s : Text) : Text :=
  if color then code style.numbers.1 ++ s ++ code style.numbers.2 else s

end Style

end NoteSieve
