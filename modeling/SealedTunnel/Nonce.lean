import SealedTunnel.Bytes

/-! Nonces of twelve bytes, counted upwards with the least significant byte first. -/
namespace SealedTunnel

def nonceSize : Nat := 12

structure Nonce where
  bytes : Bytes
  length_bytes : bytes.length = nonceSize
  deriving DecidableEq, Repr

namespace Nonce

def zero : Nonce := ⟨Bytes.zeros nonceSize, by decide⟩

def ofBytes? (bytes : Bytes) : Option Nonce :=
  if length_bytes : bytes.length = nonceSize then some ⟨bytes, length_bytes⟩ else none

/-- Adds one to the first byte and carries on as long as a byte turns to zero. -/
def carry : Bytes → Bytes
  | [] => []
  | byte :: rest => if byte + 1 = 0 then 0 :: carry rest else (byte + 1) :: rest

@[simp] theorem length_carry (bytes : Bytes) : (carry bytes).length = bytes.length := by
  induction bytes with
  | nil => rfl
  | cons byte rest ih =>
    unfold carry
    split <;> simp [ih]

def next (nonce : Nonce) : Nonce := ⟨carry nonce.bytes, by rw [length_carry, nonce.length_bytes]⟩

def value (nonce : Nonce) : Nat := nonce.bytes.toNatLE

def ofNat (count : Nat) : Nonce := ⟨Bytes.ofNatLE nonceSize count, by simp⟩

end Nonce
end SealedTunnel
