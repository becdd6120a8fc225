/-!
# Numbers, dates and times of TOML

A decimal integer has no leading zeros; hexadecimal, octal and binary ones
have no sign. Underscores stand between digits only. Integers have 64 bits
with a sign. A number with a fraction or an exponent may not be too large for
a double-precision float; one that is too far below zero is let pass. Dates
and times have to exist, a leap second included.
-/

namespace StreamLoad
namespace Toml

/-- The digits of a run in which single underscores stand between digits, and
what is behind the run. Before the first digit and behind an underscore a digit
has to come. -/
def digitRun (isDigit : Char -> Bool) :
    Bool -> List Char -> Option (List Char × List Char)
  | needsDigit, [] => if needsDigit then none else some ([], [])
  | needsDigit, character :: rest =>
      if isDigit character then
        (digitRun isDigit false rest).map fun run =>
          (character :: run.1, run.2)
      else if needsDigit then
        none
      else if character = '_' then
        digitRun isDigit true rest
      else
        some ([], character :: rest)

/-- A run of decimal digits, leading zeros allowed. -/
def decimalRun (characters : List Char) : Option (List Char × List Char) :=
  digitRun Char.isDigit true characters

/-- The digits of a decimal integer without sign. A zero stands alone. -/
def decimalDigits : List Char -> Option (List Char × List Char)
  | '0' :: rest => some (['0'], rest)
  | characters => decimalRun characters

/-- A sign, if there is one: whether it is a minus, and what is behind it. -/
def splitSign : List Char -> Bool × List Char
  | '+' :: rest => (false, rest)
  | '-' :: rest => (true, rest)
  | characters => (false, characters)

/-- The value of a digit of bases up to sixteen. -/
def digitValue (digit : Char) : Nat :=
  if digit.isDigit then
    digit.toNat - '0'.toNat
  else if digit.isLower then
    digit.toNat - 'a'.toNat + 10
  else
    digit.toNat - 'A'.toNat + 10

/-- The number that some digits write in a base. -/
def numberOf (base : Nat) (digits : List Char) : Nat :=
  digits.foldl (fun number digit => base * number + digitValue digit) 0

/-- A 64-bit integer with a sign. -/
def boundedInteger? (number : Int) : Option Int :=
  if Int64.minValue.toInt ≤ number ∧ number ≤ Int64.maxValue.toInt then
    some number
  else
    none

/-- An integer in a base other than ten. -/
def basedInteger?
    (base : Nat)
    (isDigit : Char -> Bool)
    (characters : List Char) :
    Option (Int × List Char) := do
  let (digits, rest) ← digitRun isDigit true characters
  let number ← boundedInteger? (numberOf base digits)
  some (number, rest)

/-- A digit of a hexadecimal integer. -/
def isHexDigit (character : Char) : Bool :=
  character.isDigit || ('a' ≤ character && character ≤ 'f') ||
    ('A' ≤ character && character ≤ 'F')

/-- A digit of an octal integer. -/
def isOctalDigit (character : Char) : Bool :=
  '0' ≤ character && character ≤ '7'

/-- A digit of a binary integer. -/
def isBinaryDigit (character : Char) : Bool :=
  character == '0' || character == '1'

/-- An integer. -/
def integer? : List Char -> Option (Int × List Char)
  | '0' :: 'x' :: rest => basedInteger? 16 isHexDigit rest
  | '0' :: 'o' :: rest => basedInteger? 8 isOctalDigit rest
  | '0' :: 'b' :: rest => basedInteger? 2 isBinaryDigit rest
  | characters => do
      let (negative, unsigned) := splitSign characters
      let (digits, rest) ← decimalDigits unsigned
      let magnitude : Int := numberOf 10 digits
      let number ← boundedInteger? (if negative then -magnitude else magnitude)
      some (number, rest)

/-- The least magnitude that is rounded to infinity in double precision. -/
def overflowThreshold : Nat := 1 <<< 1024 - 1 <<< 970

/-- The number `mantissa * 10 ^ exponent` is too large for double precision.
Exponents far from the threshold are decided by the number of digits alone. -/
def overflowsDouble (mantissa : Nat) (exponent : Int) : Bool :=
  if mantissa = 0 then
    false
  else
    let magnitude := (Nat.log2 mantissa / 4 : Nat) + exponent
    if 400 < magnitude then
      true
    else if 0 ≤ exponent then
      overflowThreshold ≤ mantissa * Nat.pow 10 exponent.toNat
    else if exponent < -(mantissa.log2 : Int) then
      false
    else
      overflowThreshold * Nat.pow 10 (-exponent).toNat ≤ mantissa

/-- A fraction behind a point, if there is one: its digits. -/
def fraction? : List Char -> Option (List Char × List Char)
  | '.' :: rest => decimalRun rest
  | characters => some ([], characters)

/-- An exponent, if there is one. -/
def exponent? : List Char -> Option (Int × List Char)
  | 'e' :: rest => signedExponent rest
  | 'E' :: rest => signedExponent rest
  | characters => some (0, characters)
where
  /-- The digits of an exponent with their sign. -/
  signedExponent (characters : List Char) : Option (Int × List Char) := do
    let (negative, unsigned) := splitSign characters
    let (digits, rest) ← decimalRun unsigned
    let magnitude : Int := numberOf 10 digits
    some (if negative then -magnitude else magnitude, rest)

/-- A number that may have a fraction and an exponent: what is behind it. -/
def decimalReal? (characters : List Char) : Option (List Char) := do
  let (negative, unsigned) := splitSign characters
  let (whole, behindWhole) ← decimalDigits unsigned
  let (places, behindFraction) ← fraction? behindWhole
  let (exponent, rest) ← exponent? behindFraction
  let mantissa := numberOf 10 (whole ++ places)
  if !negative && overflowsDouble mantissa (exponent - places.length) then
    none
  else
    some rest

/-- Infinity or not-a-number: what is behind it. -/
def specialReal? (characters : List Char) : Option (List Char) :=
  match (splitSign characters).2 with
  | 'i' :: 'n' :: 'f' :: rest => some rest
  | 'n' :: 'a' :: 'n' :: rest => some rest
  | _ => none

/-- The text has a fraction or an exponent behind its leading integer. -/
def looksReal (characters : List Char) : Bool :=
  match decimalDigits (splitSign characters).2 with
  | some (_, '.' :: _) => true
  | some (_, 'e' :: _) => true
  | some (_, 'E' :: _) => true
  | _ => false

/-- A decimal number of exactly `count` digits. -/
def fixedDigits? : Nat -> Nat -> List Char -> Option (Nat × List Char)
  | 0, number, characters => some (number, characters)
  | _ + 1, _, [] => none
  | count + 1, number, character :: rest =>
      if character.isDigit then
        fixedDigits? count (10 * number + digitValue character) rest
      else
        none

/-- A number of two digits up to a bound. -/
def twoDigits? (bound : Nat) (characters : List Char) :
    Option (Nat × List Char) := do
  let (number, rest) ← fixedDigits? 2 0 characters
  if number ≤ bound then some (number, rest) else none

/-- Leave out a character that has to come. -/
def expect? (expected : Char) : List Char -> Option (List Char)
  | [] => none
  | character :: rest => if character = expected then some rest else none

/-- The number of days of a month. -/
def daysOfMonth (year month : Nat) : Nat :=
  if month = 2 then
    if year % 4 = 0 ∧ (year % 100 ≠ 0 ∨ year % 400 = 0) then 29 else 28
  else if month = 4 ∨ month = 6 ∨ month = 9 ∨ month = 11 then
    30
  else
    31

/-- A date that exists: what is behind it. -/
def date? (characters : List Char) : Option (List Char) := do
  let (year, rest) ← fixedDigits? 4 0 characters
  let (month, rest) ← twoDigits? 12 (← expect? '-' rest)
  let (day, rest) ← twoDigits? 31 (← expect? '-' rest)
  if 1 ≤ month ∧ 1 ≤ day ∧ day ≤ daysOfMonth year month then
    some rest
  else
    none

/-- A time of day with seconds and perhaps a fraction: what is behind it. -/
def time? (characters : List Char) : Option (List Char) := do
  let (_, rest) ← twoDigits? 23 characters
  let (_, rest) ← twoDigits? 59 (← expect? ':' rest)
  let (_, rest) ← twoDigits? 60 (← expect? ':' rest)
  match rest with
  | '.' :: places =>
      match places.takeWhile Char.isDigit with
      | [] => none
      | _ => some (places.dropWhile Char.isDigit)
  | _ => some rest

/-- A distance from universal time, if there is one: what is behind it. -/
def offset? (characters : List Char) : Option (List Char) :=
  match characters with
  | 'Z' :: rest => some rest
  | 'z' :: rest => some rest
  | '+' :: rest => clock rest
  | '-' :: rest => clock rest
  | _ => some characters
where
  /-- Hours and minutes. -/
  clock (characters : List Char) : Option (List Char) := do
    let (_, rest) ← twoDigits? 23 characters
    let (_, rest) ← twoDigits? 59 (← expect? ':' rest)
    some rest

/-- A time behind a date, if there is one: what is behind it. -/
def timeBehindDate? : List Char -> Option (List Char)
  | delimiter :: rest =>
      if delimiter = 'T' ∨ delimiter = 't' ∨ delimiter = ' ' then
        match time? rest with
        | some behindTime => offset? behindTime
        | none => some (delimiter :: rest)
      else
        some (delimiter :: rest)
  | [] => some []

/-- A date, a time, or both: what is behind it. -/
def moment? (characters : List Char) : Option (List Char) :=
  match date? characters with
  | some rest => timeBehindDate? rest
  | none => time? characters

end Toml
end StreamLoad
