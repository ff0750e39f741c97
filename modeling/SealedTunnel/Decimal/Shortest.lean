import SealedTunnel.Decimal.Binary64

/-! The fewest decimal digits that read back as a given number, and the notations that show them. -/
namespace SealedTunnel.Decimal

/-- `digits · 10^exponent`. -/
structure Numeral where
  digits : Nat
  exponent : Int
  deriving DecidableEq, Repr

namespace Binary64

/-- How `digits · 10^exponent` compares with `m · 2^q`: both sides as whole numbers. -/
def scaledPair (numeral : Numeral) (m : Nat) (q : Int) : Nat × Nat :=
  (numeral.digits * Nat.pow 10 numeral.exponent.toNat * Nat.pow 2 (-q).toNat,
    m * Nat.pow 2 q.toNat * Nat.pow 10 (-numeral.exponent).toNat)

/-- Whether a numeral lies where everything rounds to `m · 2^q`; the ends belong to even `m`. -/
def readsBack (m : Nat) (q : Int) (numeral : Numeral) : Bool :=
  let narrow := m = leadingBit ∧ q > leastExponent
  let (belowLeft, belowRight) := scaledPair numeral (if narrow then 4 * m - 1 else 4 * m - 2) (q - 2)
  let (aboveLeft, aboveRight) := scaledPair numeral (4 * m + 2) (q - 2)
  if m % 2 = 0 then belowLeft ≥ belowRight ∧ aboveLeft ≤ aboveRight
  else belowLeft > belowRight ∧ aboveLeft < aboveRight

/-- The least `k` with `m · 2^q < 10^k`, for positive `m`. -/
def decimalScale (m : Nat) (q : Int) : Int :=
  let guess := ((Nat.log2 m : Int) + q) * 30103 / 100000 - 1
  let above (k : Int) : Bool := (scaledPair ⟨1, k⟩ m q).1 > (scaledPair ⟨1, k⟩ m q).2
  if above guess then guess else if above (guess + 1) then guess + 1
  else if above (guess + 2) then guess + 2 else guess + 3

def neighbours (m : Nat) (q exponent : Int) : List Numeral :=
  let (unit, value) := scaledPair ⟨1, exponent⟩ m q
  let below := value / unit
  if 2 * value > (2 * below + 1) * unit then [⟨below + 1, exponent⟩, ⟨below, exponent⟩]
  else [⟨below, exponent⟩, ⟨below + 1, exponent⟩]

def searchFrom (m : Nat) (q scale : Int) : (grids digits : Nat) → Option Numeral
  | 0, _ => none
  | grids + 1, digits =>
    match (neighbours m q (scale - digits)).find? (readsBack m q) with
    | some numeral => some numeral
    | none => searchFrom m q scale grids (digits + 1)

def exactNumeral (m : Nat) (q : Int) : Numeral :=
  if q ≥ 0 then ⟨m * Nat.pow 2 q.toNat, 0⟩ else ⟨m * Nat.pow 5 (-q).toNat, q⟩

def shortest (x : Binary64) : Numeral :=
  let (m, q) := x.parts
  (searchFrom m q (decimalScale m q) 17 1).getD (exactNumeral m q)

def shortestDigits (x : Binary64) : List Char × Int :=
  let numeral := x.shortest
  let digits := Nat.toDigits 10 numeral.digits
  ((digits.reverse.dropWhile (· = '0')).reverse, digits.length + numeral.exponent)

def positional (digits : List Char) (place : Int) : List Char :=
  if place ≤ 0 then '0' :: '.' :: List.replicate (-place).toNat '0' ++ digits
  else if digits.length ≤ place.toNat then digits ++ List.replicate (place.toNat - digits.length) '0'
  else digits.take place.toNat ++ '.' :: digits.drop place.toNat

def signText (x : Binary64) : String := if x.isNegative then "-" else ""

/-- Never an exponent, and no point for whole numbers. -/
def plainText (x : Binary64) : String :=
  if x.isNaN then "NaN"
  else if x.isInfinite then x.signText ++ "inf"
  else if x.magnitude = 0 then x.signText ++ "0"
  else
    let (digits, place) := x.shortestDigits
    x.signText ++ String.ofList (positional digits place)

def scientific (digits : List Char) (place : Int) : List Char :=
  let mantissa := match digits with
    | first :: second :: rest => first :: '.' :: second :: rest
    | _ => digits
  mantissa ++ 'e' :: (toString (place - 1)).toList

/-- Positional from 10^-5 up to 10^16, scientific beyond; whole numbers keep a zero behind the point. -/
def documentText (x : Binary64) : String :=
  if x.magnitude = 0 then x.signText ++ "0.0"
  else
    let (digits, place) := x.shortestDigits
    let body :=
      if -5 < place ∧ place ≤ 16 then
        positional digits place ++ (if digits.length ≤ place.toNat then ['.', '0'] else [])
      else scientific digits place
    x.signText ++ String.ofList body

end Binary64
end SealedTunnel.Decimal
