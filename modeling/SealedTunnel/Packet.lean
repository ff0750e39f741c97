import SealedTunnel.MasterKey
import SealedTunnel.Salt

/-!
Packets: a salt, the sealed payload and its tag, each packet under a session of its own. Packing and
unpacking work in the caller's buffer, and say what is left in it in every case.
-/
namespace SealedTunnel.Packet

structure Outcome where
  result : Except Fault Bytes
  buffer : Bytes

def overhead (key : MasterKey) : Nat := key.saltSize + tagSize

def checkRoom (key : MasterKey) (available plaintextLength : Nat) : Except Fault Nat :=
  let needed := plaintextLength + overhead key
  if available < needed then .error (.shortBuffer needed available) else .ok needed

def checkPacket (key : MasterKey) (length : Nat) : Except Fault Nat :=
  if length < overhead key then .error (.shortPacket (overhead key) length)
  else .ok (length - overhead key)

def build (key : MasterKey) (salts : SaltSource) (plaintext : Bytes) : Except Fault Bytes := do
  let salt ← salts.draw 0 key.saltSize
  let session ← key.session salt
  let sealed ← session.encrypt .zero plaintext
  return salt ++ sealed

/-- Packs the payload that stands behind the place of the salt. The salt goes in front of it and its tag behind. -/
def packInPlace (key : MasterKey) (salts : SaltSource) (plaintextLength : Nat) (buffer : Bytes) : Outcome :=
  match checkRoom key buffer.length plaintextLength with
  | .error fault => ⟨.error fault, buffer⟩
  | .ok total =>
    match salts.draw 0 key.saltSize with
    | .error fault => ⟨.error fault, buffer⟩
    | .ok salt =>
      let salted := buffer.overwrite 0 salt
      match key.session salt with
      | .error fault => ⟨.error fault, salted⟩
      | .ok session =>
        match session.sealInPlace .zero ((salted.drop key.saltSize).take plaintextLength) with
        | (.error fault, left) => ⟨.error fault, salted.overwrite key.saltSize left⟩
        | (.ok tag, hidden) =>
          let packed := (salted.overwrite key.saltSize hidden).overwrite (key.saltSize + plaintextLength) tag
          ⟨.ok (packed.take total), packed⟩

def pack (key : MasterKey) (salts : SaltSource) (plaintext buffer : Bytes) : Outcome :=
  match checkRoom key buffer.length plaintext.length with
  | .error fault => ⟨.error fault, buffer⟩
  | .ok _ => packInPlace key salts plaintext.length (buffer.overwrite key.saltSize plaintext)

def reveal (key : MasterKey) (packet : Bytes) : Except Fault Bytes := do
  let length ← checkPacket key packet.length
  let session ← key.session (packet.take key.saltSize)
  let sealed := packet.drop key.saltSize
  session.openParts .zero (sealed.take length) (sealed.drop length)

/-- Unpacks into `buffer`, and leaves zeros there when the packet is refused. -/
def unpack (key : MasterKey) (packet buffer : Bytes) : Outcome :=
  match checkPacket key packet.length with
  | .error fault => ⟨.error fault, buffer⟩
  | .ok length =>
    if buffer.length < length then ⟨.error (.shortBuffer length buffer.length), buffer⟩
    else
      match key.session (packet.take key.saltSize) with
      | .error fault => ⟨.error fault, buffer⟩
      | .ok session =>
        let sealed := packet.drop key.saltSize
        let copied := buffer.overwrite 0 (sealed.take length)
        match session.openInPlace .zero (copied.take length) (sealed.drop length) with
        | (.error fault, left) => ⟨.error fault, (copied.overwrite 0 left).overwrite 0 (Bytes.zeros length)⟩
        | (.ok (), plaintext) =>
          let opened := copied.overwrite 0 plaintext
          ⟨.ok (opened.take length), opened⟩

def unpackInPlace (key : MasterKey) (packet : Bytes) : Outcome :=
  match checkPacket key packet.length with
  | .error fault => ⟨.error fault, packet⟩
  | .ok length =>
    match key.session (packet.take key.saltSize) with
    | .error fault => ⟨.error fault, packet⟩
    | .ok session =>
      let sealed := packet.drop key.saltSize
      match session.openInPlace .zero (sealed.take length) (sealed.drop length) with
      | (.error fault, left) => ⟨.error fault, packet.overwrite key.saltSize left⟩
      | (.ok (), plaintext) =>
        let opened := packet.overwrite key.saltSize plaintext
        ⟨.ok ((opened.drop key.saltSize).take length), opened⟩

end SealedTunnel.Packet
