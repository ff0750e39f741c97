import SealedTunnel.Text.Number
import SealedTunnel.Time.Calendar
import SealedTunnel.Toml.Basic

/-! Numbers, dates and times in documents of settings. Digits may be grouped by underscores. -/
namespace SealedTunnel.Toml

open Decimal (Binary64)
open Text (isDigit isDigitOf numberOf)

def readDigits (isDigit : Char → Bool) : List Char → Option (List Char × List Char)
  | [] => none
  | c :: rest =>
    if !isDigit c then none
    else
      match rest with
      | [] => some ([c], [])
      | next :: after =>
        if next = '_' then (readDigits isDigit after).map fun (digits, rest) => (c :: digits, rest)
        else if isDigit next then (readDigits isDigit (next :: after)).map fun (digits, rest) => (c :: digits, rest)
        else some ([c], next :: after)

def readSign : List Char → Bool × List Char
  | '-' :: rest => (true, rest)
  | '+' :: rest => (false, rest)
  | chars => (false, chars)

def readWhole : List Char → Option (List Char × List Char)
  | '0' :: rest => some (['0'], rest)
  | chars => readDigits isDigit chars

def integer? (value : Int) : Option Toml :=
  if leastInteger ≤ value ∧ value ≤ largestInteger then some (integer value) else none

def readInBase (base : Nat) (chars : List Char) : Option (Toml × List Char) := do
  let (digits, rest) ← readDigits (isDigitOf base) chars
  return (← integer? (numberOf base digits), rest)

def readExponent : List Char → Option (Option Int × List Char)
  | c :: rest =>
    if c = 'e' ∨ c = 'E' then do
      let (isNegative, rest) := readSign rest
      let (digits, rest) ← readDigits isDigit rest
      let size : Int := numberOf 10 digits
      return (some (if isNegative then -size else size), rest)
    else some (none, c :: rest)
  | [] => some (none, [])

def readFraction : List Char → Option (Option (List Char) × List Char)
  | '.' :: rest => (readDigits isDigit rest).map fun (digits, rest) => (some digits, rest)
  | chars => some (none, chars)

/-- The nearest number; one that is too large above is none. -/
def float? (isNegative : Bool) (digits : List Char) (exponent : Int) : Option Toml :=
  let value := Binary64.ofDecimal isNegative (numberOf 10 digits) exponent
  if value.isInfinite ∧ !isNegative then none else some (float value)

def special (value : Binary64) (isNegative : Bool) : Toml := float (if isNegative then value.negate else value)

/-- What has neither a point nor an exponent is an integer. -/
def readDecimal (chars : List Char) : Option (Toml × List Char) := do
  let (isNegative, rest) := readSign chars
  match rest with
  | 'i' :: 'n' :: 'f' :: rest => return (special (.infinity false) isNegative, rest)
  | 'n' :: 'a' :: 'n' :: rest => return (special .nan isNegative, rest)
  | _ =>
    let (whole, rest) ← readWhole rest
    let (fraction, rest) ← readFraction rest
    let (exponent, rest) ← readExponent rest
    match fraction, exponent with
    | none, none =>
      let size : Int := numberOf 10 whole
      return (← integer? (if isNegative then -size else size), rest)
    | _, _ =>
      let places := fraction.getD []
      return (← float? isNegative (whole ++ places) (exponent.getD 0 - places.length), rest)

def readTwoDigits (largest : Nat) : List Char → Option (Nat × List Char)
  | a :: b :: rest =>
    let number := numberOf 10 [a, b]
    if isDigit a ∧ isDigit b ∧ number ≤ largest then some (number, rest) else none
  | _ => none

def expect (c : Char) : List Char → Option (List Char)
  | first :: rest => if first = c then some rest else none
  | [] => none

def skipTime (chars : List Char) : Option (List Char) := do
  let (_, rest) ← readTwoDigits 23 chars
  let (_, rest) ← readTwoDigits 59 (← expect ':' rest)
  let (_, rest) ← readTwoDigits 60 (← expect ':' rest)
  match rest with
  | '.' :: rest =>
    if rest.head?.any isDigit then some (rest.dropWhile isDigit) else none
  | rest => some rest

def skipOffset : List Char → Option (List Char)
  | c :: rest =>
    if c = 'Z' ∨ c = 'z' then some rest
    else if c = '+' ∨ c = '-' then do
      let (_, rest) ← readTwoDigits 23 rest
      let (_, rest) ← readTwoDigits 59 (← expect ':' rest)
      return rest
    else some (c :: rest)
  | [] => some []

def beginsTime : List Char → Bool
  | a :: b :: c :: _ => isDigit a ∧ isDigit b ∧ c = ':'
  | _ => false

def beginsDate : List Char → Bool
  | a :: b :: c :: d :: e :: _ => [a, b, c, d].all isDigit ∧ e = '-'
  | _ => false

/-- What follows a date; the time of day behind it may be left out. -/
def skipDate (chars : List Char) : Option (List Char) := do
  let year := numberOf 10 (chars.take 4)
  let (month, rest) ← readTwoDigits 12 (chars.drop 5)
  let (day, rest) ← readTwoDigits 31 (← expect '-' rest)
  if !(Time.Date.isValid ⟨year, month, day⟩) then none
  else
    match rest with
    | c :: after => if (c = 'T' ∨ c = 't' ∨ c = ' ') ∧ beginsTime after then (skipTime after).bind skipOffset else some rest
    | [] => some []

def readNumber (chars : List Char) : Option (Toml × List Char) :=
  if beginsDate chars then (skipDate chars).map (moment, ·)
  else if beginsTime chars then (skipTime chars).map (moment, ·)
  else
    match chars with
    | '0' :: 'x' :: rest => readInBase 16 rest
    | '0' :: 'o' :: rest => readInBase 8 rest
    | '0' :: 'b' :: rest => readInBase 2 rest
    | _ => readDecimal chars

end SealedTunnel.Toml
