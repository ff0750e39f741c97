import SealedTunnel.Digest.Hmac
import SealedTunnel.Error

/-! From a password to a master secret, and from that and a salt to the key of one session. -/
namespace SealedTunnel.KeyDerivation

open Digest

/-- Grows `derived` by digests, each over the last digest and the data, up to `length` bytes. -/
def stretchFrom (data : Bytes) (length : Nat) (derived : Bytes) : Bytes :=
  if derived.length < length then
    stretchFrom data length (derived ++ md5 (derived.drop (derived.length - md5Size) ++ data))
  else derived.take length
termination_by length - derived.length
decreasing_by simp only [List.length_append, length_md5, md5Size]; omega

def stretch (data : Bytes) (length : Nat) : Bytes := stretchFrom data length []

/-- The digests `D₁ = MD5(data)`, `D₍ᵢ₊₁₎ = MD5(Dᵢ ++ data)`, from the one after `last` on. -/
def digestChain (data : Bytes) : (count : Nat) → (last : Bytes) → Bytes
  | 0, _ => []
  | count + 1, last =>
    let next := md5 (last ++ data)
    next ++ digestChain data count next

def sessionInfo : Bytes := Bytes.ofText "ss-subkey"

def expand (salt : Option Bytes) (material info : Bytes) (length : Nat) : Except Fault Bytes :=
  match expand? (extract salt material) info length with
  | some output => .ok output
  | none => .error (.crypto .expansion)

def sessionKey (secret salt : Bytes) (length : Nat) : Except Fault Bytes :=
  expand (some salt) secret sessionInfo length

end SealedTunnel.KeyDerivation
