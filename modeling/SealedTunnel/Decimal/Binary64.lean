/-!
Floating-point numbers of 64 bits, held as their bits and computed with exactly: every result is the
representable number nearest to the true one, the even one of two that are equally near.
-/
namespace SealedTunnel.Decimal

structure Binary64 where
  bits : UInt64
  deriving DecidableEq, Repr

namespace Binary64

def fractionBits : Nat := 52

def leadingBit : Nat := Nat.pow 2 fractionBits

def signBit : Nat := 0x8000000000000000

def leastExponent : Int := -1074

def ofSignMagnitude (negative : Bool) (magnitude : Nat) : Binary64 :=
  ⟨UInt64.ofNat (magnitude + if negative then signBit else 0)⟩

def infiniteMagnitude : Nat := 0x7ff * leadingBit

def isNegative (x : Binary64) : Bool := x.bits.toNat ≥ signBit

def magnitude (x : Binary64) : Nat := x.bits.toNat % signBit

def isNaN (x : Binary64) : Bool := x.magnitude > infiniteMagnitude

def isInfinite (x : Binary64) : Bool := x.magnitude = infiniteMagnitude

def isFinite (x : Binary64) : Bool := x.magnitude < infiniteMagnitude

def zero : Binary64 := ⟨0⟩

def one : Binary64 := ⟨0x3ff0000000000000⟩

def nan : Binary64 := ⟨0x7ff8000000000000⟩

def infinity (negative : Bool) : Binary64 := ofSignMagnitude negative infiniteMagnitude

/-- `m` and `q` with the magnitude of a finite number equal to `m · 2^q`. -/
def parts (x : Binary64) : Nat × Int :=
  let exponent := x.magnitude / leadingBit
  let fraction := x.magnitude % leadingBit
  if exponent = 0 then (fraction, leastExponent)
  else (fraction + leadingBit, leastExponent + exponent - 1)

/-- The whole number nearest to a quotient, the even one of two. -/
def roundDiv (num den : Nat) : Nat :=
  let quotient := num / den
  let twice := 2 * (num % den)
  if twice > den ∨ (twice = den ∧ quotient % 2 = 1) then quotient + 1 else quotient

def shifted (num den : Nat) (shift : Int) : Nat × Nat :=
  if shift ≥ 0 then (num * Nat.pow 2 shift.toNat, den) else (num, den * Nat.pow 2 (-shift).toNat)

/-- The exponent of the greatest power of two that is not above a positive quotient. -/
def floorLog2 (num den : Nat) : Int :=
  let guess : Int := (Nat.log2 num : Int) - Nat.log2 den
  let (scaled, whole) := shifted num den (-guess)
  if scaled ≥ whole then guess else guess - 1

def ofRatio (negative : Bool) (num den : Nat) : Binary64 :=
  if num = 0 then ofSignMagnitude negative 0
  else
    let place := max (floorLog2 num den - fractionBits) leastExponent
    let (num, den) := shifted num den (-place)
    let magnitude := roundDiv num den + (place - leastExponent).toNat * leadingBit
    ofSignMagnitude negative (min magnitude infiniteMagnitude)

/-- Decimal exponents beyond these leave nothing but zero or infinity. -/
def decimalReach : Int := 400

def ofDecimal (negative : Bool) (digits : Nat) (exponent : Int) : Binary64 :=
  let places : Int := (Nat.toDigits 10 digits).length
  if digits = 0 ∨ exponent + places < -decimalReach then ofSignMagnitude negative 0
  else if exponent + places > decimalReach then infinity negative
  else if exponent ≥ 0 then ofRatio negative (digits * Nat.pow 10 exponent.toNat) 1
  else ofRatio negative digits (Nat.pow 10 (-exponent).toNat)

def ofNat (number : Nat) : Binary64 := ofRatio false number 1

def ofInt (number : Int) : Binary64 := ofRatio (number < 0) number.natAbs 1

def ratio (x : Binary64) : Nat × Nat :=
  let (m, q) := x.parts
  shifted m 1 q

def negate (x : Binary64) : Binary64 := ofSignMagnitude (!x.isNegative) x.magnitude

def mul (x y : Binary64) : Binary64 :=
  let (xNum, xDen) := x.ratio
  let (yNum, yDen) := y.ratio
  ofRatio (x.isNegative != y.isNegative) (xNum * yNum) (xDen * yDen)

def div (x y : Binary64) : Binary64 :=
  let (xNum, xDen) := x.ratio
  let (yNum, yDen) := y.ratio
  ofRatio (x.isNegative != y.isNegative) (xNum * yDen) (xDen * yNum)

/-- Magnitude with its sign; both zeros are the same. -/
def order (x : Binary64) : Int := if x.isNegative then -(x.magnitude : Int) else x.magnitude

def lt (x y : Binary64) : Bool := !x.isNaN && !y.isNaN && decide (x.order < y.order)

def le (x y : Binary64) : Bool := !x.isNaN && !y.isNaN && decide (x.order ≤ y.order)

def same (x y : Binary64) : Bool := !x.isNaN && !y.isNaN && decide (x.order = y.order)

end Binary64
end SealedTunnel.Decimal
