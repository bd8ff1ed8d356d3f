import NoteSieve.Text.Digits
import NoteSieve.Toml.Value

/-!
# TOML words

A value that is no string, array or table is one word: a truth value, a number, or a date. Digits
may be grouped by single underscores. An integer has 64 bits; a number with a fraction may not round
to an infinity, though it may to a negative one. A date and a time are checked against the calendar
and the clock, and may be separated by a space, so a moment can take two words.
-/

namespace NoteSieve.Toml

/-! ### Integers -/

/-- Digits without the underscores that group them. Every underscore stands between two digits. -/
def ungroup? (s : Text) : Option Text :=
  let groups := Text.fragments (· == '_') s
  if groups.all fun g => !g.isEmpty then some groups.flatten else none

/-- Decimal digits, grouped or not, without their underscores. -/
def decimalDigits? (s : Text) : Option Text :=
  match ungroup? s with
  | some digits => if digits.all Text.isDigit then some digits else none
  | none => none

/-- The digits of a whole number: none but a single zero begins with a zero. -/
def wholeDigits? (s : Text) : Option Text :=
  match decimalDigits? s with
  | some digits =>
    if s.length = 1 ∨ digits.head? ≠ some '0' then some digits else none
  | none => none

/-- The sign in front of a number, and the rest. -/
def splitSign : Text → Bool × Text
  | '-' :: rest => (true, rest)
  | '+' :: rest => (false, rest)
  | s => (false, s)

/-- The number of integers of 64 bits that are not negative. -/
def integerBound : Nat := 9223372036854775808

/-- An integer of 64 bits. -/
def integerInRange? (n : Int) : Option Toml :=
  if -integerBound ≤ n ∧ n < integerBound then some (.integer n) else none

/-- An integer in a base other than ten, which has no sign. -/
def basedInteger? (base : Nat) (s : Text) : Option Toml := do
  let digits ← ungroup? s
  let n ← Text.digits? base digits
  integerInRange? n

/-- **An integer.** -/
def integer? : Text → Option Toml
  | '0' :: 'x' :: rest => basedInteger? 16 rest
  | '0' :: 'o' :: rest => basedInteger? 8 rest
  | '0' :: 'b' :: rest => basedInteger? 2 rest
  | s => do
    let (negative, rest) := splitSign s
    let digits ← wholeDigits? rest
    let n ← Text.digits? 10 digits
    integerInRange? (if negative then -n else n)

/-! ### Numbers with a fraction -/

/-- The least number that rounds to an infinity in 64 bits. -/
def infinityBound : Nat := Nat.pow 2 1024 - Nat.pow 2 970

/-- Whether a number, given by its digits and an exponent of ten, rounds to an infinity. -/
def isInfinite (digits : Text) (exponent : Int) : Bool :=
  match Text.digits? 10 digits with
  | none => false
  | some 0 => false
  | some n =>
    if 400 < exponent then true
    else if 0 ≤ exponent then infinityBound ≤ n * Nat.pow 10 exponent.toNat
    else if exponent < -(digits.length : Int) then false
    else infinityBound * Nat.pow 10 (-exponent).toNat ≤ n

/-- The exponent after the letter that introduces it. -/
def exponent? (s : Text) : Option Int := do
  let (negative, rest) := splitSign s
  let digits ← decimalDigits? rest
  let n ← Text.digits? 10 digits
  return if negative then -n else n

/-- **A number with a fraction, an exponent or both.** -/
def float? (s : Text) : Option Toml := do
  let (negative, rest) := splitSign s
  if rest = "inf".toList ∨ rest = "nan".toList then return .float
  let isMark := fun c => c == 'e' || c == 'E'
  let mantissa := rest.takeWhile fun c => !isMark c
  let exponent ← match rest.dropWhile fun c => !isMark c with
    | [] => some none
    | _ :: s => (exponent? s).map some
  let whole ← wholeDigits? (mantissa.takeWhile (· != '.'))
  let places ← match mantissa.dropWhile (· != '.') with
    | [] => some none
    | _ :: s => (decimalDigits? s).map some
  match places, exponent with
  | none, none => none
  | _, _ =>
    let places := places.getD []
    if !negative && isInfinite (whole ++ places) (exponent.getD 0 - places.length) then none
    else return .float

/-! ### Moments -/

/-- A number of exactly so many digits, within bounds. -/
def field? (width low high : Nat) (s : Text) : Option Nat :=
  if s.length = width ∧ s.all Text.isDigit then
    match Text.digits? 10 s with
    | some n => if low ≤ n ∧ n ≤ high then some n else none
    | none => none
  else none

/-- Whether a year has a 29th of February. -/
def isLeapYear (year : Nat) : Bool := year % 4 == 0 && (year % 100 != 0 || year % 400 == 0)

/-- The number of days of a month. -/
def daysIn (year month : Nat) : Nat :=
  if month = 2 then (if isLeapYear year then 29 else 28)
  else if month = 4 ∨ month = 6 ∨ month = 9 ∨ month = 11 then 30
  else 31

/-- Whether a text is a date of the calendar. -/
def isDate (s : Text) : Bool :=
  match Text.fragments (· == '-') s with
  | [year, month, day] =>
    match field? 4 0 9999 year, field? 2 1 12 month with
    | some y, some m => (field? 2 1 (daysIn y m) day).isSome
    | _, _ => false
  | _ => false

/-- Whether a text is an hour and a minute. -/
def isHourMinute (s : Text) : Bool :=
  match Text.fragments (· == ':') s with
  | [hour, minute] => (field? 2 0 23 hour).isSome && (field? 2 0 59 minute).isSome
  | _ => false

/-- Whether a text is the seconds of a time, with decimal places or without. -/
def isSeconds (s : Text) : Bool :=
  match Text.fragments (· == '.') s with
  | [seconds] => (field? 2 0 60 seconds).isSome
  | [seconds, places] =>
    (field? 2 0 60 seconds).isSome && !places.isEmpty && places.all Text.isDigit
  | _ => false

/-- Whether a text is a time of the clock, down to the second. -/
def isTime (s : Text) : Bool :=
  match Text.fragments (· == ':') s with
  | [hour, minute, seconds] =>
    (field? 2 0 23 hour).isSome && (field? 2 0 59 minute).isSome && isSeconds seconds
  | _ => false

/-- Whether a text is a time, with its distance from universal time or without. -/
def isOffsetTime (s : Text) : Bool :=
  let isZone := fun c => c == 'Z' || c == 'z' || c == '+' || c == '-'
  isTime (s.takeWhile fun c => !isZone c) &&
    match s.dropWhile fun c => !isZone c with
    | [] => true
    | ['Z'] => true
    | ['z'] => true
    | '+' :: rest => isHourMinute rest
    | '-' :: rest => isHourMinute rest
    | _ => false

/-- Whether one word is a moment. -/
def isMoment (s : Text) : Bool :=
  isTime s ||
    isDate (s.take 10) &&
      match s.drop 10 with
      | [] => true
      | c :: rest => (c == 'T' || c == 't') && isOffsetTime rest

/-! ### Words -/

/-- The characters of a word. -/
def isWordChar (c : Char) : Bool :=
  c.isAlphanum || c == '+' || c == '-' || c == '_' || c == '.' || c == ':'

/-- The value of one word. -/
def word? (s : Text) : Option Toml :=
  if s = "true".toList then some (.boolean true)
  else if s = "false".toList then some (.boolean false)
  else if isMoment s then some .moment
  else (integer? s).or (float? s)

/-- **Reads a word**, or the two words of a date and a time. -/
def readWord (s : Text) : Option (Toml × Text) :=
  let word := s.takeWhile isWordChar
  let rest := s.dropWhile isWordChar
  let alone := (word? word).map (·, rest)
  match rest with
  | ' ' :: more =>
    if isDate word && isOffsetTime (more.takeWhile isWordChar) then
      some (.moment, more.dropWhile isWordChar)
    else alone
  | _ => alone

end NoteSieve.Toml
