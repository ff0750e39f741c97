import SealedTunnel.Bytes

namespace SealedTunnel.Cipher.Poly1305

def modulus : Nat := Nat.pow 2 130 - 5

/-- The bits of the multiplier that a key may set. -/
def clamp : Nat := 0x0ffffffc0ffffffc0ffffffc0fffffff

/-- The polynomial whose coefficients are the pieces of the message, each with a one behind it. -/
def evaluate (multiplier : Nat) (message : Bytes) : Nat :=
  (message.pieces 16).foldl (fun sum piece => (sum + Bytes.toNatLE (piece ++ [1])) * multiplier % modulus) 0

def mac (key message : Bytes) : Bytes :=
  let multiplier := Bytes.toNatLE (key.take 16) &&& clamp
  let addend := Bytes.toNatLE (key.drop 16)
  Bytes.ofNatLE 16 (evaluate multiplier message + addend)

@[simp] theorem length_mac (key message : Bytes) : (mac key message).length = 16 := by simp [mac]

end SealedTunnel.Cipher.Poly1305
