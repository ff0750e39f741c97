namespace SealedTunnel.Text

def isDigit (c : Char) : Bool := '0' ≤ c ∧ c ≤ '9'

/-- The value of a digit in any base up to 36; letters of either case stand for ten and more. -/
def digitValue (c : Char) : Option Nat :=
  if '0' ≤ c ∧ c ≤ '9' then some (c.toNat - '0'.toNat)
  else if 'a' ≤ c ∧ c ≤ 'z' then some (c.toNat - 'a'.toNat + 10)
  else if 'A' ≤ c ∧ c ≤ 'Z' then some (c.toNat - 'A'.toNat + 10)
  else none

def isDigitOf (base : Nat) (c : Char) : Bool :=
  match digitValue c with
  | some value => value < base
  | none => false

def numberOf (base : Nat) (digits : List Char) : Nat :=
  digits.foldl (fun number c => number * base + (digitValue c).getD 0) 0

structure NumberForm where
  base : Nat
  /-- The most digits; zero for any count. -/
  places : Nat
  leadingZeros : Bool
  largest : Nat

def NumberForm.read (form : NumberForm) (chars : List Char) : Option (Nat × List Char) :=
  let digits := chars.takeWhile (isDigitOf form.base)
  let number := numberOf form.base digits
  if digits.isEmpty then none
  else if form.places ≠ 0 ∧ digits.length > form.places then none
  else if !form.leadingZeros ∧ digits.length > 1 ∧ digits.head? = some '0' then none
  else if number > form.largest then none
  else some (number, chars.dropWhile (isDigitOf form.base))

/-- `number` in a base, brought to `width` digits by zeros in front. -/
def zeroPaddedIn (base width number : Nat) : List Char :=
  let digits := Nat.toDigits base number
  List.replicate (width - digits.length) '0' ++ digits

def zeroPadded (width number : Nat) : List Char := zeroPaddedIn 10 width number

/-- A whole text as a decimal number; one plus sign may lead. -/
def decimal? (largest : Nat) (chars : List Char) : Option Nat :=
  let digits := match chars with
    | '+' :: rest => rest
    | _ => chars
  if digits.isEmpty ∨ !digits.all isDigit then none
  else if numberOf 10 digits > largest then none
  else some (numberOf 10 digits)

end SealedTunnel.Text
