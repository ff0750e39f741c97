import SealedTunnel.Cipher.ChaCha20
import SealedTunnel.Cipher.Gcm
import SealedTunnel.Cipher.Poly1305
import SealedTunnel.Error
import SealedTunnel.Nonce

/-!
Authenticated encryption without associated data: a key stream hides the text, a tag over the hidden
text protects it. Opening undoes sealing and succeeds on nothing else.
-/
namespace SealedTunnel

def tagSize : Nat := 16

structure Aead where
  kind : AeadKind
  key : Bytes
  length_key : key.length = kind.keySize
  deriving DecidableEq

namespace Aead

def ofKey (kind : AeadKind) (key : Bytes) : Except Fault Aead :=
  if length_key : key.length = kind.keySize then .ok ⟨kind, key, length_key⟩
  else .error (.crypto (.keyLength key.length kind))

/-- What may be shown of a cipher: never the key. -/
def describe (aead : Aead) : String := "Aead(" ++ aead.kind.label ++ ")"

def keystream (aead : Aead) (nonce : Nonce) (length : Nat) : Bytes :=
  match aead.kind with
  | .chaCha20Poly1305 => Cipher.ChaCha20.keystream aead.key nonce.bytes 1 length
  | _ => Cipher.Gcm.keystream aead.key nonce.bytes length

def tag (aead : Aead) (nonce : Nonce) (hidden : Bytes) : Bytes :=
  match aead.kind with
  | .chaCha20Poly1305 =>
    Cipher.Poly1305.mac ((Cipher.ChaCha20.block aead.key nonce.bytes 0).take 32)
      (hidden.padTo 16 ++ Bytes.ofNatLE 8 0 ++ Bytes.ofNatLE 8 hidden.length)
  | _ => Cipher.Gcm.tag aead.key nonce.bytes hidden

def mask (aead : Aead) (nonce : Nonce) (text : Bytes) : Bytes := text.xor (aead.keystream nonce text.length)

def sealParts (aead : Aead) (nonce : Nonce) (plaintext : Bytes) : Except Fault (Bytes × Bytes) :=
  if plaintext.length > aead.kind.sealLimit then .error (.crypto .sealing)
  else
    let hidden := aead.mask nonce plaintext
    .ok (hidden, aead.tag nonce hidden)

/-- The text behind `hidden`, if `tag` is its tag. Every refusal is the same one. -/
def openParts (aead : Aead) (nonce : Nonce) (hidden tag : Bytes) : Except Fault Bytes :=
  if hidden.length > aead.kind.openLimit then .error .decryption
  else if tag = aead.tag nonce hidden then .ok (aead.mask nonce hidden)
  else .error .decryption

def sealInPlace (aead : Aead) (nonce : Nonce) (buffer : Bytes) : Except Fault Bytes × Bytes :=
  match aead.sealParts nonce buffer with
  | .error fault => (.error fault, buffer)
  | .ok (hidden, tag) => (.ok tag, hidden)

/-- Uncovers what a buffer holds, if `tag` is its tag. A buffer that is refused stays as it is. -/
def openInPlace (aead : Aead) (nonce : Nonce) (buffer tag : Bytes) : Except Fault Unit × Bytes :=
  if tag.length ≠ tagSize then (.error .decryption, buffer)
  else
    match aead.openParts nonce buffer tag with
    | .error fault => (.error fault, buffer)
    | .ok plaintext => (.ok (), plaintext)

def encrypt (aead : Aead) (nonce : Nonce) (plaintext : Bytes) : Except Fault Bytes := do
  let (hidden, tag) ← aead.sealParts nonce plaintext
  return hidden ++ tag

def decrypt (aead : Aead) (nonce : Nonce) (sealed : Bytes) : Except Fault Bytes :=
  if sealed.length < tagSize then .error .decryption
  else aead.openParts nonce (sealed.take (sealed.length - tagSize)) (sealed.drop (sealed.length - tagSize))

def sealedLength (length : Nat) : Nat := length + tagSize

@[simp] theorem length_keystream (aead : Aead) (nonce : Nonce) (length : Nat) :
    (aead.keystream nonce length).length = length := by
  unfold keystream
  split <;> simp

@[simp] theorem length_tag (aead : Aead) (nonce : Nonce) (hidden : Bytes) :
    (aead.tag nonce hidden).length = tagSize := by
  unfold tag
  split <;> simp [tagSize]

@[simp] theorem length_mask (aead : Aead) (nonce : Nonce) (text : Bytes) :
    (aead.mask nonce text).length = text.length := by
  simp [mask, Bytes.length_xor]

@[simp] theorem mask_mask (aead : Aead) (nonce : Nonce) (text : Bytes) :
    aead.mask nonce (aead.mask nonce text) = text := by
  have covered : text.length ≤ (aead.keystream nonce text.length).length := by simp
  rw [mask, length_mask, mask, Bytes.xor_xor _ _ covered]

theorem length_openParts {aead : Aead} {nonce : Nonce} {hidden tag plaintext : Bytes}
    (opened : aead.openParts nonce hidden tag = .ok plaintext) : plaintext.length = hidden.length := by
  unfold Aead.openParts at opened
  split at opened
  · simp at opened
  · split at opened
    · simp only [Except.ok.injEq] at opened
      simp [← opened]
    · simp at opened

end Aead
end SealedTunnel
