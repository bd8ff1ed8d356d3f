import NoteSieve.Unicode.Table

/-!
# White space

The characters with the Unicode property `White_Space`. They separate the words of a search text,
and they are what is cut from the end of a printed row. The JSON grammar has a smaller set of its
own, and the two are never mixed.
-/

namespace NoteSieve.Unicode

/-- The runs of characters with the property `White_Space`. -/
def blankRuns : List (Nat × Nat) :=
  [(0x9, 0xD), (0x20, 0x20), (0x85, 0x85), (0xA0, 0xA0), (0x1680, 0x1680), (0x2000, 0x200A),
   (0x2028, 0x2029), (0x202F, 0x202F), (0x205F, 0x205F), (0x3000, 0x3000)]

/-- Whether a character is white space. -/
def isBlank (c : Char) : Bool := covers blankRuns c.toNat

/-- A line feed and a carriage return are the white space that ends a line. -/
def endsLine (c : Char) : Bool := c == '\n' || c == '\r'

/-- White space that can stand inside a line. -/
def isInlineBlank (c : Char) : Bool := isBlank c && !endsLine c

end NoteSieve.Unicode
