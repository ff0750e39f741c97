import SealedTunnel.Text.CharClass
import SealedTunnel.Text.Number
import SealedTunnel.Time.Calendar

/-!
Points in time and their text, a date and a time of day with an offset from the universal time. What is
written has no offset; what is read may have one, and blanks between its parts.
-/
namespace SealedTunnel.Time

open Text (isDigit)

structure Timestamp where
  /-- Since the first of January 1970. -/
  seconds : Int
  /-- From 10^9 on, it is the leap second behind that second. -/
  nanos : Nat
  deriving DecidableEq, Repr

namespace Timestamp

def perSecond : Nat := 1000000000

def perDay : Int := 86400

def date (time : Timestamp) : Date := Date.ofDays (Int.fdiv time.seconds perDay)

def secondOfDay (time : Timestamp) : Nat := (Int.fmod time.seconds perDay).toNat

def truncated (time : Timestamp) : Timestamp := ⟨time.seconds, time.nanos / perSecond * perSecond⟩

def twoDigits (number : Nat) : List Char := Text.zeroPadded 2 number

/-- Four digits; outside of these, with a sign. -/
def yearText (year : Int) : List Char :=
  if 0 ≤ year ∧ year ≤ 9999 then Text.zeroPadded 4 year.toNat
  else (if year < 0 then '-' else '+') :: Text.zeroPadded 4 year.natAbs

def fractionText (nanos : Nat) : List Char :=
  if nanos = 0 then []
  else if nanos % 1000000 = 0 then '.' :: Text.zeroPadded 3 (nanos / 1000000)
  else if nanos % 1000 = 0 then '.' :: Text.zeroPadded 6 (nanos / 1000)
  else '.' :: Text.zeroPadded 9 nanos

def chars (time : Timestamp) : List Char :=
  let date := time.date
  let second := time.secondOfDay
  let leap := time.nanos / perSecond
  yearText date.year ++ '-' :: twoDigits date.month ++ '-' :: twoDigits date.day ++
    'T' :: twoDigits (second / 3600) ++ ':' :: twoDigits (second / 60 % 60) ++
    ':' :: twoDigits (second % 60 + leap) ++ fractionText (time.nanos % perSecond) ++ ['Z']

def text (time : Timestamp) : String := String.ofList time.chars

def skipBlanks (chars : List Char) : List Char := chars.dropWhile Text.isBlank

def expect (c : Char) (chars : List Char) : Option (List Char) :=
  match skipBlanks chars with
  | head :: rest => if head = c then some rest else none
  | [] => none

def readDigits (places : Nat) (chars : List Char) : Option (Nat × List Char) :=
  let digits := (chars.take places).takeWhile isDigit
  if digits.isEmpty then none else some (Text.numberOf 10 digits, chars.drop digits.length)

def readField (low high : Nat) (chars : List Char) : Option (Nat × List Char) := do
  let (number, rest) ← readDigits 2 (skipBlanks chars)
  if low ≤ number ∧ number ≤ high then some (number, rest) else none

/-- Up to four digits, or any number of them behind a sign. -/
def readYear (chars : List Char) : Option (Int × List Char) :=
  match skipBlanks chars with
  | '-' :: rest => (readDigits rest.length rest).map fun (number, rest) => (-number, rest)
  | '+' :: rest => (readDigits rest.length rest).map fun (number, rest) => ((number : Int), rest)
  | chars => (readDigits 4 chars).map fun (number, rest) => ((number : Int), rest)

def readDate (chars : List Char) : Option (Date × List Char) := do
  let (year, rest) ← readYear chars
  let (month, rest) ← readField 1 12 (← expect '-' rest)
  let (day, rest) ← readField 1 31 (← expect '-' rest)
  return (⟨year, month, day⟩, rest)

/-- A fraction of a second in nanoseconds; digits behind the ninth are dropped. -/
def readFraction : List Char → Option (Nat × List Char)
  | '.' :: rest => do
    let digits := rest.takeWhile isDigit
    if digits.isEmpty then none
    else
      let nine := digits.take 9
      some (Text.numberOf 10 nine * Nat.pow 10 (9 - nine.length), rest.drop digits.length)
  | chars => some (0, chars)

def readClock (chars : List Char) : Option ((Nat × Nat × Nat × Nat) × List Char) := do
  let (hour, rest) ← readField 0 23 chars
  let (minute, rest) ← readField 0 59 (← expect ':' rest)
  let (second, rest) ← readField 0 60 (← expect ':' rest)
  let (nanos, rest) ← readFraction rest
  return ((hour, minute, second, nanos), rest)

def isColonOrBlank (c : Char) : Bool := c = ':' ∨ Text.isBlank c

def readExactlyTwo : List Char → Option (Nat × List Char)
  | a :: b :: rest => if isDigit a ∧ isDigit b then some (Text.numberOf 10 [a, b], rest) else none
  | _ => none

def readSpan (chars : List Char) : Option (Int × List Char) := do
  let (hours, rest) ← readExactlyTwo chars
  let (minutes, rest) ← readExactlyTwo (rest.dropWhile isColonOrBlank)
  if minutes < 60 then some ((hours * 3600 + minutes * 60 : Nat), rest) else none

/-- How far the time is ahead of the universal time, in seconds. -/
def readOffset (chars : List Char) : Option (Int × List Char) :=
  if (chars.take 3).map Char.toUpper = ['U', 'T', 'C'] then some (0, chars.drop 3)
  else
    match chars with
    | 'Z' :: rest | 'z' :: rest => some (0, rest)
    | '+' :: rest => readSpan rest
    | '-' :: rest | '−' :: rest => (readSpan rest).map fun (seconds, rest) => (-seconds, rest)
    | _ => none

def earliestYear : Int := -262143

def latestYear : Int := 262142

def isYear (year : Int) : Bool := earliestYear ≤ year ∧ year ≤ latestYear

/-- The time of a date and a clock; the second 60 is a leap second. -/
def ofParts (date : Date) (hour minute second nanos : Nat) (offset : Int) : Timestamp :=
  let leap := second / 60
  let local_ := date.toDays * perDay + (hour * 3600 + minute * 60 + (second - leap) : Nat)
  ⟨local_ - offset, nanos + leap * perSecond⟩

def parse? (text : String) : Option Timestamp := do
  let (date, rest) ← readDate text.toList
  let rest ← match rest with
    | 't' :: rest | 'T' :: rest | ' ' :: rest => some rest
    | _ => none
  let ((hour, minute, second, nanos), rest) ← readClock rest
  let (offset, rest) ← readOffset (skipBlanks rest)
  let time := ofParts date hour minute second nanos offset
  if (skipBlanks rest).isEmpty ∧ date.isValid ∧ isYear date.year ∧ offset.natAbs < perDay.natAbs ∧
      isYear time.date.year then some time
  else none

end Timestamp
end SealedTunnel.Time
