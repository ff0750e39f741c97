import SealedTunnel.Aead

/-! The ciphers a key can name, under either of their two names. -/
namespace SealedTunnel

structure CipherSpec where
  name : String
  ietfName : String
  kind : AeadKind
  deriving DecidableEq, Repr

namespace CipherSpec

def keySize (spec : CipherSpec) : Nat := spec.kind.keySize

def saltSize (spec : CipherSpec) : Nat := spec.kind.keySize

/-- In order of preference. -/
def registry : List CipherSpec := [
  ⟨"chacha20-ietf-poly1305", "AEAD_CHACHA20_POLY1305", .chaCha20Poly1305⟩,
  ⟨"aes-256-gcm", "AEAD_AES_256_GCM", .aes256Gcm⟩,
  ⟨"aes-192-gcm", "AEAD_AES_192_GCM", .aes192Gcm⟩,
  ⟨"aes-128-gcm", "AEAD_AES_128_GCM", .aes128Gcm⟩]

def sameIgnoringCase (left right : String) : Bool :=
  left.toList.map Char.toLower == right.toList.map Char.toLower

def isCalled (spec : CipherSpec) (name : String) : Bool :=
  sameIgnoringCase spec.name name || sameIgnoringCase spec.ietfName name

def lookup (name : String) : Except Fault CipherSpec :=
  match registry.find? (·.isCalled name) with
  | some spec => .ok spec
  | none => .error (.unsupportedCipher name)

end CipherSpec
end SealedTunnel
