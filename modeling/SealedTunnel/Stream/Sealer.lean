import SealedTunnel.Salt
import SealedTunnel.Stream.Wire

/-! The state of sealing: the session begins with the first data, and its nonce counts the seals. -/
namespace SealedTunnel

structure Sealer where
  key : MasterKey
  salts : SaltSource
  /-- How many salts have been asked for. -/
  attempts : Nat
  session : Option Aead
  nonce : Nonce

namespace Sealer

def fresh (key : MasterKey) (salts : SaltSource) : Sealer := ⟨key, salts, 0, none, .zero⟩

/-- Begins the session unless there is one. The salt is to be sent first. -/
def begin (sealer : Sealer) : Except Fault (Aead × Bytes) × Sealer :=
  match sealer.session with
  | some session => (.ok (session, []), sealer)
  | none =>
    let asked := { sealer with attempts := sealer.attempts + 1 }
    match sealer.salts.draw sealer.attempts sealer.key.saltSize with
    | .error fault => (.error fault, asked)
    | .ok salt =>
      match sealer.key.session salt with
      | .error fault => (.error fault, asked)
      | .ok session => (.ok (session, salt), { asked with session := some session })

def sealData (sealer : Sealer) (data : Bytes) : Except Fault Bytes × Sealer :=
  match sealer.begin with
  | (.error fault, sealer) => (.error fault, sealer)
  | (.ok (session, salt), sealer) =>
    match Wire.chunks session sealer.nonce (data.pieces Wire.longestPayload) with
    | .error fault => (.error fault, sealer)
    | .ok (sealed, nonce) => (.ok (salt ++ sealed), { sealer with nonce })

end Sealer
end SealedTunnel
