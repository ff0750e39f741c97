import SealedTunnel.Bytes

/-!
Base64: three bytes as four digits. There are two alphabets, which differ in their last two digits,
and at the end the digits may be filled up to four. What is read has to be exactly what would be written.
-/
namespace SealedTunnel.Base64

structure Variant where
  /-- The digits of 62 and 63. -/
  lastDigits : Char × Char
  isPadded : Bool
  deriving DecidableEq, Repr

namespace Variant

def urlSafe (isPadded : Bool) : Variant := ⟨('-', '_'), isPadded⟩

def standard (isPadded : Bool) : Variant := ⟨('+', '/'), isPadded⟩

def all : List Variant := [urlSafe false, urlSafe true, standard true, standard false]

def digit (variant : Variant) (value : Nat) : Char :=
  if value < 26 then Char.ofNat ('A'.toNat + value)
  else if value < 52 then Char.ofNat ('a'.toNat + (value - 26))
  else if value < 62 then Char.ofNat ('0'.toNat + (value - 52))
  else if value = 62 then variant.lastDigits.1
  else variant.lastDigits.2

def value? (variant : Variant) (c : Char) : Option Nat :=
  if 'A' ≤ c ∧ c ≤ 'Z' then some (c.toNat - 'A'.toNat)
  else if 'a' ≤ c ∧ c ≤ 'z' then some (c.toNat - 'a'.toNat + 26)
  else if '0' ≤ c ∧ c ≤ '9' then some (c.toNat - '0'.toNat + 52)
  else if c = variant.lastDigits.1 then some 62
  else if c = variant.lastDigits.2 then some 63
  else none

def padding (variant : Variant) (count : Nat) : List Char :=
  if variant.isPadded then List.replicate count '=' else []

def encode (variant : Variant) : Bytes → List Char
  | [] => []
  | [x] => [variant.digit (x.toNat / 4), variant.digit (x.toNat % 4 * 16)] ++ variant.padding 2
  | [x, y] =>
    [variant.digit (x.toNat / 4), variant.digit (x.toNat % 4 * 16 + y.toNat / 16), variant.digit (y.toNat % 16 * 4)] ++
      variant.padding 1
  | x :: y :: z :: rest =>
    variant.digit (x.toNat / 4) :: variant.digit (x.toNat % 4 * 16 + y.toNat / 16) ::
      variant.digit (y.toNat % 16 * 4 + z.toNat / 64) :: variant.digit (z.toNat % 64) :: variant.encode rest

/-- One byte from two digits; nothing may be left of the second. -/
def decodeTwo (variant : Variant) (a b : Char) : Option Bytes := do
  let a ← variant.value? a
  let b ← variant.value? b
  if b % 16 = 0 then some [UInt8.ofNat (a * 4 + b / 16)] else none

def decodeThree (variant : Variant) (a b c : Char) : Option Bytes := do
  let a ← variant.value? a
  let b ← variant.value? b
  let c ← variant.value? c
  if c % 4 = 0 then some [UInt8.ofNat (a * 4 + b / 16), UInt8.ofNat (b % 16 * 16 + c / 4)] else none

def decodeFour (variant : Variant) (a b c d : Char) : Option Bytes := do
  let a ← variant.value? a
  let b ← variant.value? b
  let c ← variant.value? c
  let d ← variant.value? d
  return [UInt8.ofNat (a * 4 + b / 16), UInt8.ofNat (b % 16 * 16 + c / 4), UInt8.ofNat (c % 4 * 64 + d)]

def decode (variant : Variant) : List Char → Option Bytes
  | [] => some []
  | [_] => none
  | [a, b] => if variant.isPadded then none else variant.decodeTwo a b
  | [a, b, c] => if variant.isPadded then none else variant.decodeThree a b c
  | a :: b :: c :: d :: rest =>
    if variant.isPadded ∧ rest.isEmpty ∧ d = '=' then
      if c = '=' then variant.decodeTwo a b else variant.decodeThree a b c
    else do
      let bytes ← variant.decodeFour a b c d
      let others ← variant.decode rest
      return bytes ++ others

end Variant

def decodeText? (chars : List Char) : Option String :=
  (Variant.all.findSome? fun variant => variant.decode chars).bind Bytes.toText?

end SealedTunnel.Base64
