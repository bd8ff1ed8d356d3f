import NoteSieve.Text.Basic
import NoteSieve.Unicode.Visible

/-!
# Quoted texts

How a text is shown inside a rendered filter: between double quotes, with a backslash before a
quote and a backslash, short escapes for the common controls, and the code point in braces for any
other character that cannot be shown.
-/

namespace NoteSieve.Text

open Unicode

/-- The code point of a character, in braces and in the fewest hexadecimal digits. -/
def escapeCodePoint (c : Char) : Text :=
  ['\\', 'u', '\x7b'] ++ Nat.toDigits 16 c.toNat ++ ['\x7d']

/-- A character as it is shown between quotes. -/
def quoteChar (c : Char) : Text :=
  if c = '\x00' then ['\\', '0']
  else if c = '\t' then ['\\', 't']
  else if c = '\r' then ['\\', 'r']
  else if c = '\n' then ['\\', 'n']
  else if c = '"' then ['\\', '"']
  else if c = '\\' then ['\\', '\\']
  else if isVisible c then [c]
  else escapeCodePoint c

/-- **A text as it is shown**, quotes included. -/
def quoted (s : Text) : Text := ['"'] ++ s.flatMap quoteChar ++ ['"']

end NoteSieve.Text
