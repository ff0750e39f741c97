import SealedTunnel.Packet
import SealedTunnel.Target

/-!
Datagrams through a tunnel: a packet whose payload begins with an address, the target of what is sent
or the source of what is received.
-/
namespace SealedTunnel.Datagram

/-- The most bytes of a datagram on its way, and the most that are received of one. -/
def largest : Nat := 16 * 1024

/-- The packet that takes a payload to its target: a buffer of its size, with the address behind the place of the salt
and the payload behind the address, packed where it stands. -/
def sealTo (key : MasterKey) (salts : SaltSource) (target : Target) (payload : Bytes) : Except Fault Bytes := do
  let length := target.encodedLength + payload.length
  let needed := length + Packet.overhead key
  if needed > largest then throw (.shortBuffer needed largest)
  let addressed := (Bytes.zeros needed).overwrite key.saltSize (← target.encode)
  let filled := addressed.overwrite (key.saltSize + target.encodedLength) payload
  (Packet.packInPlace key salts length filled).result

/-- What a packet brings, unpacked where it stands: where it is from, and the payload. -/
def reveal (key : MasterKey) (packet : Bytes) : Except Fault (Target × Bytes) := do
  let plaintext ← (Packet.unpackInPlace key packet).result
  let (source, used) ← Target.decode plaintext
  return (source, plaintext.drop used)

structure Delivery where
  /-- The length of the payload, and where it is from. -/
  result : Except Fault (Nat × Target)
  buffer : Bytes

/-- Delivers into a buffer. A payload that is too long is cut, which is an error. -/
def deliver (key : MasterKey) (packet buffer : Bytes) : Delivery :=
  match reveal key packet with
  | .error fault => ⟨.error fault, buffer⟩
  | .ok (source, payload) =>
    if buffer.length < payload.length then
      ⟨.error (.shortBuffer payload.length buffer.length), payload.take buffer.length⟩
    else ⟨.ok (payload.length, source), payload ++ buffer.drop payload.length⟩

end SealedTunnel.Datagram
