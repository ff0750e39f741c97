import SealedTunnel.Proofs.Address.Reading
import SealedTunnel.Proofs.Datagram.Lossless

/-!
Whether a remote that was dialed can answer. What comes back is compared with the target that was read from the text of
the address; an answer names its source by an encoding, which has no place for a scope.
-/
namespace SealedTunnel

namespace Target

variable {target : Target} {text : String}

def flow : Target → UInt32
  | ipv6 _ _ flow _ => flow
  | _ => 0

def scope : Target → UInt32
  | ipv6 _ _ _ scope => scope
  | _ => 0

theorem unscoped_eq_self : target.unscoped = target ↔ target.flow = 0 ∧ target.scope = 0 := by
  cases target <;> simp [unscoped, flow, scope, eq_comm]

theorem flow_parse (parsed : parse text = .ok target) : target.flow = 0 := by
  rcases parse_eq_ok parsed with numeric | ⟨name, port, rfl, -⟩
  · rcases numeric?_eq_some numeric with ⟨ip, port, rfl⟩ | ⟨ip, port, scope, rfl⟩ <;> rfl
  · rfl

theorem unscoped_parse (parsed : parse text = .ok target) : target.unscoped = target ↔ target.scope = 0 := by
  rw [unscoped_eq_self, flow_parse parsed]
  exact and_iff_right rfl

end Target

namespace Datagram

variable {key : MasterKey} {salts : SaltSource} {target : Target} {payload packet reply : Bytes}

theorem length_of_reveal {plaintext : Bytes} (revealed : Packet.reveal key packet = .ok plaintext) :
    packet.length = plaintext.length + Packet.overhead key := by
  obtain ⟨salt, session, sized, -, -, rfl⟩ := Packet.reveal_eq_ok.mp revealed
  rw [List.length_append, Aead.length_message, sized, Packet.overhead]
  omega

theorem reveal_echo (sent : sealTo key salts target payload = .ok packet)
    (echoed : Packet.reveal key reply = Packet.reveal key packet) :
    reply.length = packet.length ∧ reveal key reply = .ok (target.unscoped, payload) := by
  obtain ⟨-, encoded, made, built⟩ := sealTo_eq_ok.mp sent
  have plain := Packet.reveal_build built
  rw [plain] at echoed
  exact ⟨(length_of_reveal echoed).trans (length_of_reveal plain).symm, reveal_encoded made echoed⟩

end Datagram

namespace Bound

theorem receive_echo {κ : Type} [Carrier κ] {address : String} {remote : Target}
    (dialed : Target.parse address = .ok remote) {key : MasterKey} {salts : SaltSource} {payload packet reply : Bytes}
    (sent : Datagram.sealTo key salts remote payload = .ok packet)
    (echoed : Packet.reveal key reply = Packet.reveal key packet) {proxy next : κ}
    (came : Carrier.receive proxy 16384 = (.ready (.ok (reply.take 16384)), next)) {buffer : Bytes}
    (roomy : payload.length ≤ buffer.length) (later : SaltSource) :
    receive ⟨⟨key, later, proxy⟩, remote⟩ buffer =
      if remote.scope = 0 then
        (.ready (.ok payload.length), payload ++ buffer.drop payload.length, ⟨⟨key, later, next⟩, remote⟩)
      else receive ⟨⟨key, later, next⟩, remote⟩ (payload ++ buffer.drop payload.length) := by
  obtain ⟨length, revealed⟩ := Datagram.reveal_echo sent echoed
  -- An answer is as long as the packet that was sent, so that nothing of it is cut off.
  have whole : reply.take 16384 = reply :=
    List.take_of_length_le (Nat.le_trans (Nat.le_of_eq length) (Datagram.length_sealTo sent))
  rw [whole] at came
  have received : Tunnel.receiveFrom ⟨key, later, proxy⟩ buffer = _ := Tunnel.receiveFrom_revealed revealed came buffer
  rw [receive_eq, received, if_pos roomy]
  simp only [Target.unscoped_parse dialed]

/-- A datagram that brings back the plaintext of one that was sent to a dialed remote is received as the payload, if the
address named no scope. If it named one, the answer is dropped like one from somebody else. -/
theorem receives_echo {κ : Type} [Carrier κ] {address : String} {remote : Target}
    (dialed : Target.parse address = .ok remote) (key : MasterKey) (salts : SaltSource) (payload : Bytes) {packet : Bytes}
    (sent : Datagram.sealTo key salts remote payload = .ok packet) {reply : Bytes}
    (echoed : Packet.reveal key reply = Packet.reveal key packet) {proxy next : κ}
    (came : Carrier.receive proxy 16384 = (.ready (.ok (reply.take 16384)), next)) (buffer : Bytes)
    (roomy : payload.length ≤ buffer.length) :
    let bound : Bound κ := ⟨⟨key, salts.after 1, proxy⟩, remote⟩
    let after : Bound κ := ⟨⟨key, salts.after 1, next⟩, remote⟩
    (remote.scope = 0 →
      bound.receive buffer = (.ready (.ok payload.length), payload ++ buffer.drop payload.length, after)) ∧
    (remote.scope ≠ 0 → bound.receive buffer = after.receive (payload ++ buffer.drop payload.length)) := by
  intro bound after
  have answer : bound.receive buffer = _ := receive_echo dialed sent echoed came roomy (salts.after 1)
  constructor
  · intro unscoped
    exact answer.trans (if_pos unscoped)
  · intro zoned
    exact answer.trans (if_neg zoned)

section Script

open Scripted

def expecting (remote : Target) (packet : Bytes) : Bound Mailbox :=
  ⟨⟨⟨⟨"aes-128-gcm", "AEAD_AES_128_GCM", .aes128Gcm⟩, []⟩, .random fun _ _ => 0, .ofScript [⟨0, .data packet⟩] []⟩, remote⟩

theorem exists_sent (remote : Target) (payload : Bytes)
    (fitting : Datagram.Fitting (expecting remote []).tunnel.key remote payload) :
    ∃ packet, Datagram.sealTo (expecting remote []).tunnel.key (.random fun _ _ => 0) remote payload = .ok packet :=
  Datagram.sealTo_fitting (.random fun _ _ => 0) fitting rfl

theorem receives_echo_loopback :
    ∃ remote packet, Target.parse "[::1]:53" = .ok remote ∧
      Datagram.sealTo (expecting remote []).tunnel.key (.random fun _ _ => 0) remote [170, 187] = .ok packet ∧
      ((expecting remote packet).receive (Bytes.zeros 3)).1 = .ready (.ok 2) ∧
      ((expecting remote packet).receive (Bytes.zeros 3)).2.1 = [170, 187, 0] := by
  have parsed : Target.parse "[::1]:53" = .ok (.ipv6 (.ofParts [] [1]) 53 0 0) := rfl
  obtain ⟨packet, sent⟩ := exists_sent (.ipv6 (.ofParts [] [1]) 53 0 0) [170, 187] ⟨rfl, by decide⟩
  have came : Carrier.receive (Mailbox.ofScript [⟨0, .data packet⟩] []) 16384 =
    (.ready (.ok (packet.take 16384)), .ofScript [] []) := rfl
  have roomy : ([170, 187] : Bytes).length ≤ (Bytes.zeros 3).length := by decide
  have answer := (receives_echo parsed _ _ _ sent rfl came (Bytes.zeros 3) roomy).1 rfl
  refine ⟨_, packet, parsed, sent, ?_, ?_⟩
  · exact congrArg Prod.fst answer
  · exact congrArg (fun outcome => outcome.2.1) answer

/-- From an address on this link, with the interface that leads there, no echo is received. -/
theorem echo_dropped :
    ∃ remote packet, Target.parse "[fe80::1%1]:53" = .ok remote ∧
      Datagram.sealTo (expecting remote []).tunnel.key (.random fun _ _ => 0) remote [170, 187] = .ok packet ∧
      ((expecting remote packet).receive (Bytes.zeros 2)).1 = .ready (.error Mailbox.exhausted) := by
  have parsed : Target.parse "[fe80::1%1]:53" = .ok (.ipv6 (.ofParts [0xfe80] [1]) 53 0 1) := rfl
  obtain ⟨packet, sent⟩ := exists_sent (.ipv6 (.ofParts [0xfe80] [1]) 53 0 1) [170, 187] ⟨rfl, by decide⟩
  refine ⟨_, packet, parsed, sent, ?_⟩
  have came : Carrier.receive (Mailbox.ofScript [⟨0, .data packet⟩] []) 16384 =
    (.ready (.ok (packet.take 16384)), .ofScript [] []) := rfl
  have roomy : ([170, 187] : Bytes).length ≤ (Bytes.zeros 2).length := by decide
  have dropped : (expecting _ packet).receive (Bytes.zeros 2) = _ := receive_echo parsed sent rfl came roomy _
  rw [dropped, if_neg (by decide), receive_eq]
  rfl

end Script
end Bound
end SealedTunnel
