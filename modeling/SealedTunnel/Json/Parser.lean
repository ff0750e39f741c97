import SealedTunnel.Json.Written

namespace SealedTunnel.Json

open Decimal (Binary64)
open Text (digitValue)

def Piece.char? : Piece → Option Char
  | char c => some c
  | half _ => none

def piecesText? (pieces : List Piece) : Option String := (pieces.mapM Piece.char?).map String.ofList

def significandLimit : Nat := UInt64.size - 1

/-- Takes up digits as long as the significand has room for them; what is left over follows. -/
def absorb : (significand : Nat) → List Char → Nat × List Char
  | significand, [] => (significand, [])
  | significand, c :: rest =>
    let grown := significand * 10 + (digitValue c).getD 0
    if grown > significandLimit then (significand, c :: rest) else absorb grown rest

def tenTo (exponent : Nat) : Binary64 := Binary64.ofDecimal false 1 exponent

def largestPower : Nat := 308

/-- Division by a power of ten in steps that each stay within the powers there are. -/
def scaleDown : (steps : Nat) → Binary64 → (exponent : Nat) → Binary64
  | 0, value, _ => value
  | steps + 1, value, exponent =>
    if exponent ≤ largestPower then value.div (tenTo exponent)
    else if value.magnitude = 0 then value
    else scaleDown steps (value.div (tenTo largestPower)) (exponent - largestPower)

/-- The significand as a number, then one product or quotient; out of range has no value. -/
def scaled? (negative : Bool) (significand : Nat) (exponent : Int) : Option Binary64 :=
  let value := Binary64.ofNat significand
  let signed (x : Binary64) : Binary64 := if negative then x.negate else x
  if exponent < 0 then some (signed (scaleDown 4 value (-exponent).toNat))
  else if exponent ≤ largestPower then
    let product := value.mul (tenTo exponent.toNat)
    if product.isInfinite then none else some (signed product)
  else if significand = 0 then some (signed value)
  else none

/-- The largest exponent that is looked at as a number. -/
def exponentLimit : Nat := 0x7fffffff

def NumberText.float? (text : NumberText) : Option Binary64 :=
  let (significand, extra) := absorb 0 text.whole
  let (significand, places) :=
    match text.fraction with
    | none => (significand, (extra.length : Int))
    | some digits =>
      let (grown, rest) := absorb significand digits
      (grown, (extra.length : Int) - (digits.length - rest.length : Nat))
  match text.exponent with
  | none => scaled? text.negative significand places
  | some (down, digits) =>
    let exponent := Text.numberOf 10 digits
    if exponent > exponentLimit then
      if significand = 0 ∨ down then some (Binary64.ofSignMagnitude text.negative 0) else none
    else
      let shifted := places + (if down then -(exponent : Int) else exponent)
      scaled? text.negative significand (max (-0x80000000) (min shifted exponentLimit))

/-- A whole number in the range of 64 bits of either sign, else the nearest floating-point number. -/
def NumberText.value? (text : NumberText) : Option Json :=
  match text.fraction, text.exponent, absorb 0 text.whole with
  | none, none, (number, []) =>
    if !text.negative then some (.integer number)
    else if 0 < number ∧ number ≤ 0x8000000000000000 then some (.integer (-number))
    else some (.float (Binary64.ofNat number).negate)
  | _, _, _ => text.float?.map .float

def depthLimit : Nat := 127

mutual

def Written.value? (depth : Nat) : Written → Option Json
  | .null => some .null
  | .bool value => some (.bool value)
  | .number text => text.value?
  | .string pieces => (piecesText? pieces).map .string
  | .array items => if depth = 0 then none else (valuesOf? (depth - 1) items).map .array
  | .object fields => if depth = 0 then none else (fieldsOf? (depth - 1) fields).map ofFields

def valuesOf? (depth : Nat) : List Written → Option (List Json)
  | [] => some []
  | item :: rest => do
    let item ← Written.value? depth item
    let rest ← valuesOf? depth rest
    return item :: rest

def fieldsOf? (depth : Nat) : List (List Piece × Written) → Option (List (String × Json))
  | [] => some []
  | (name, value) :: rest => do
    let name ← piecesText? name
    let value ← Written.value? depth value
    let rest ← fieldsOf? depth rest
    return (name, value) :: rest

end

def parse? (text : String) : Option Json := (Written.parse? text).bind (Written.value? depthLimit)

end SealedTunnel.Json
