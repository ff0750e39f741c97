namespace SealedTunnel

inductive AeadKind
  | chaCha20Poly1305
  | aes256Gcm
  | aes192Gcm
  | aes128Gcm
  deriving DecidableEq, Repr

namespace AeadKind

def all : List AeadKind := [chaCha20Poly1305, aes256Gcm, aes192Gcm, aes128Gcm]

def label : AeadKind → String
  | chaCha20Poly1305 => "ChaCha20Poly1305"
  | aes256Gcm => "Aes256Gcm"
  | aes192Gcm => "Aes192Gcm"
  | aes128Gcm => "Aes128Gcm"

def ofLabel? (text : String) : Option AeadKind := all.find? fun kind => kind.label == text

def keySize : AeadKind → Nat
  | chaCha20Poly1305 => 32
  | aes256Gcm => 32
  | aes192Gcm => 24
  | aes128Gcm => 16

/-- The longest plaintext one nonce may cover. -/
def sealLimit : AeadKind → Nat
  | chaCha20Poly1305 => 64 * 0xffffffff - 1
  | _ => 0x1000000000

/-- The longest ciphertext that is looked at when opening. -/
def openLimit : AeadKind → Nat
  | chaCha20Poly1305 => 64 * 0xffffffff - 1
  | _ => 0x1000000000 + 16

end AeadKind
end SealedTunnel
