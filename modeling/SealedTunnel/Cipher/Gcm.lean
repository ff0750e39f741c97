import SealedTunnel.Cipher.Aes

/-! Galois/counter mode over AES: the key stream, and the tag that hashes in the field of 2^128 elements. -/
namespace SealedTunnel.Cipher.Gcm

/-- A polynomial of degree below 128; the bit of highest weight is its constant term. -/
structure Element where
  high : UInt64
  low : UInt64
  deriving DecidableEq, Repr

namespace Element

def zero : Element := ⟨0, 0⟩

def add (x y : Element) : Element := ⟨x.high ^^^ y.high, x.low ^^^ y.low⟩

def ofBytes (bytes : Bytes) : Element :=
  ⟨UInt64.ofNat (Bytes.toNatBE (bytes.take 8)), UInt64.ofNat (Bytes.toNatBE ((bytes.drop 8).take 8))⟩

def toBytes (x : Element) : Bytes := Bytes.ofNatBE 8 x.high.toNat ++ Bytes.ofNatBE 8 x.low.toNat

/-- Multiplication by the indeterminate, reduced by `x^128 + x^7 + x^2 + x + 1`. -/
def timesX (x : Element) : Element :=
  let shifted : Element := ⟨x.high >>> 1, (x.low >>> 1) ||| (x.high <<< 63)⟩
  if x.low &&& 1 = 1 then ⟨shifted.high ^^^ 0xe100000000000000, shifted.low⟩ else shifted

def coefficient (x : Element) (degree : Nat) : Bool :=
  if degree < 64 then (x.high >>> UInt64.ofNat (63 - degree)) &&& 1 = 1
  else (x.low >>> UInt64.ofNat (127 - degree)) &&& 1 = 1

/-- The sum of `y · x^d` over the terms of `x`, up from degree `128 - terms`. -/
def mulFrom (x : Element) : (terms : Nat) → (power sum : Element) → Element
  | 0, _, sum => sum
  | terms + 1, power, sum =>
    mulFrom x terms power.timesX (if x.coefficient (127 - terms) then sum.add power else sum)

def mul (x y : Element) : Element := mulFrom x 128 y zero

end Element

def hash (key : Element) (blocks : List Bytes) : Element :=
  blocks.foldl (fun sum block => (sum.add (Element.ofBytes block)).mul key) .zero

def counterBlock (nonce : Bytes) (counter : Nat) : Aes.Block :=
  Aes.Block.ofBytes (nonce ++ Bytes.ofNatBE 4 counter)

/-- The encrypted counter blocks from the second on; the first covers the tag. -/
def keystream (key nonce : Bytes) (length : Nat) : Bytes :=
  let schedule := Aes.Schedule.ofKey key
  ((List.range ((length + 15) / 16)).flatMap fun i =>
    (schedule.encrypt (counterBlock nonce (i + 2))).toBytes).take length

def tag (key nonce ciphertext : Bytes) : Bytes :=
  let schedule := Aes.Schedule.ofKey key
  let hashKey := Element.ofBytes (schedule.encrypt ⟨0, 0, 0, 0⟩).toBytes
  let lengths := Bytes.ofNatBE 16 (ciphertext.length * 8)
  let sum := hash hashKey (Bytes.pieces 16 (ciphertext.padTo 16 ++ lengths))
  Element.toBytes (sum.add (Element.ofBytes (schedule.encrypt (counterBlock nonce 1)).toBytes))

@[simp] theorem length_keystream (key nonce : Bytes) (length : Nat) :
    (keystream key nonce length).length = length := by
  rw [keystream, List.length_take, Bytes.length_flatMap _ _ 16 (by simp), List.length_range]
  omega

@[simp] theorem length_tag (key nonce ciphertext : Bytes) : (tag key nonce ciphertext).length = 16 := by
  simp [tag, Element.toBytes]

end SealedTunnel.Cipher.Gcm
