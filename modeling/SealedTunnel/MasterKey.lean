import SealedTunnel.Cipher.Registry
import SealedTunnel.KeyDerivation
import SealedTunnel.Text.Quoted

namespace SealedTunnel

structure MasterKey where
  spec : CipherSpec
  secret : Bytes
  deriving DecidableEq

namespace MasterKey

def ofSecret (cipher secret : String) : Except Fault MasterKey := do
  let spec ← CipherSpec.lookup cipher
  return ⟨spec, KeyDerivation.stretch (Bytes.ofText secret) spec.keySize⟩

def saltSize (key : MasterKey) : Nat := key.spec.saltSize

def session (key : MasterKey) (salt : Bytes) : Except Fault Aead := do
  let subkey ← KeyDerivation.sessionKey key.secret salt key.spec.keySize
  if subkey.length ≠ key.spec.keySize then throw (.crypto .shortSubkey)
  Aead.ofKey key.spec.kind subkey

def describe (key : MasterKey) : String :=
  "EncryptionKey \x7b cipher: " ++ Text.quoted key.spec.name ++ ", .. \x7d"

end MasterKey
end SealedTunnel
