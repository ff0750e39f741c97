import SealedTunnel.Proofs.Address.Encoding
import SealedTunnel.Proofs.Datagram.Strangers
import SealedTunnel.Proofs.Timeline.Instant
import SealedTunnel.Scripted.Mailing

namespace SealedTunnel

namespace Datagram

variable {key : MasterKey} {salts : SaltSource} {target : Target} {payload packet : Bytes}

def Fitting (key : MasterKey) (target : Target) (payload : Bytes) : Prop :=
  target.isEncodable ∧ target.encodedLength + payload.length + key.saltSize + tagSize ≤ 16384

theorem sealTo_long (long : largest < target.encodedLength + payload.length + Packet.overhead key) :
    sealTo key salts target payload =
      .error (.shortBuffer (target.encodedLength + payload.length + Packet.overhead key) largest) := by
  rw [sealTo, if_pos long]
  rfl

theorem result_packAddressed {encoded buffer : Bytes}
    (sized : buffer.length = encoded.length + payload.length + Packet.overhead key) :
    (Packet.packInPlace key salts (encoded.length + payload.length)
      ((buffer.overwrite key.saltSize encoded).overwrite (key.saltSize + encoded.length) payload)).result =
        Packet.build key salts (encoded ++ payload) := by
  have fits : key.saltSize + (encoded.length + payload.length) ≤ buffer.length := by
    rw [sized, Packet.overhead]
    omega
  have whole : key.saltSize + (encoded ++ payload).length ≤ buffer.length := by rwa [List.length_append]
  have roomy : encoded.length + payload.length + Packet.overhead key ≤
      (buffer.overwrite key.saltSize (encoded ++ payload)).length := by rw [Bytes.length_overwrite whole, sized]
  rw [Bytes.overwrite_behind fits, Packet.result_packInPlace roomy, ← List.length_append, Bytes.take_overwrite whole]

theorem sealTo_short (short : ¬ largest < target.encodedLength + payload.length + Packet.overhead key) :
    sealTo key salts target payload = target.encode >>= fun encoded => Packet.build key salts (encoded ++ payload) := by
  rw [sealTo, if_neg short]
  cases made : target.encode with
  | error fault => rfl
  | ok encoded =>
      have length := Target.length_encode made
      have sized := Bytes.length_zeros (encoded.length + payload.length + Packet.overhead key)
      rw [← length]
      exact result_packAddressed sized

theorem sealTo_eq_ok : sealTo key salts target payload = .ok packet ↔ Fitting key target payload ∧
    ∃ encoded, target.encode = .ok encoded ∧ Packet.build key salts (encoded ++ payload) = .ok packet := by
  have limit : Fitting key target payload ↔
      target.isEncodable ∧ ¬ largest < target.encodedLength + payload.length + Packet.overhead key := by
    simp only [Fitting, Packet.overhead, largest, Nat.not_lt, Nat.add_assoc, Nat.reduceMul]
  rw [limit]
  by_cases long : largest < target.encodedLength + payload.length + Packet.overhead key
  · simp [sealTo_long long, long]
  · rw [sealTo_short long]
    constructor
    · intro sealed
      cases made : target.encode with
      | error fault =>
          rw [made] at sealed
          cases sealed
      | ok encoded =>
          rw [made] at sealed
          exact ⟨⟨Target.encode_able made, long⟩, encoded, rfl, sealed⟩
    · rintro ⟨-, encoded, made, built⟩
      rw [made]
      exact built

theorem sealTo_fitting (salts : SaltSource) (fitting : Fitting key target payload) {salt : Bytes}
    (drawn : salts.draw 0 key.saltSize = .ok salt) : ∃ packet, sealTo key salts target payload = .ok packet := by
  obtain ⟨encoded, made, length⟩ := Target.encode_encodable fitting.1
  obtain ⟨session, ofSalt⟩ := key.session_ok salt
  have short : (encoded ++ payload).length ≤ 16384 := by
    have room := fitting.2
    rw [List.length_append]
    omega
  have sealable : (encoded ++ payload).length ≤ session.kind.sealLimit := by
    refine Nat.le_trans short ?_
    cases session.kind <;> decide
  exact ⟨_, sealTo_eq_ok.mpr ⟨fitting, encoded, made, Packet.build_eq_ok.mpr ⟨_, session, drawn, ofSalt, sealable, rfl⟩⟩⟩

theorem sealTo_unfitting (salts : SaltSource) (unfitting : ¬ Fitting key target payload) :
    ∃ fault, sealTo key salts target payload = .error fault := by
  cases sealed : sealTo key salts target payload with
  | error fault => exact ⟨fault, rfl⟩
  | ok packet => exact absurd (sealTo_eq_ok.mp sealed).1 unfitting

theorem length_sealTo (sealed : sealTo key salts target payload = .ok packet) : packet.length ≤ largest := by
  obtain ⟨fitting, encoded, made, built⟩ := sealTo_eq_ok.mp sealed
  have room := fitting.2
  have whole := Packet.length_of_build built
  rw [List.length_append, Target.length_encode made, Packet.overhead] at whole
  unfold largest
  omega

/-- Any packet of that plaintext, not only the one that was sent, is from there and brings the payload. -/
theorem reveal_encoded {encoded : Bytes} (made : target.encode = .ok encoded)
    (revealed : Packet.reveal key packet = .ok (encoded ++ payload)) :
    reveal key packet = .ok (target.unscoped, payload) := by
  rw [reveal, Packet.result_unpackInPlace, revealed]
  change (Target.decode (encoded ++ payload) >>= _) = _
  rw [Target.decode_encode made]
  change Except.ok (target.unscoped, (encoded ++ payload).drop encoded.length) = _
  rw [List.drop_left]

theorem reveal_sealTo (sealed : sealTo key salts target payload = .ok packet) :
    reveal key packet = .ok (target.unscoped, payload) := by
  obtain ⟨-, encoded, made, built⟩ := sealTo_eq_ok.mp sealed
  exact reveal_encoded made (Packet.reveal_build built)

theorem deliver_cut {source : Target} {buffer : Bytes} (revealed : reveal key packet = .ok (source, payload))
    (short : buffer.length < payload.length) :
    deliver key packet buffer = ⟨.error (.shortBuffer payload.length buffer.length), payload.take buffer.length⟩ := by
  rw [deliver, revealed]
  dsimp only
  rw [if_pos short]

end Datagram

namespace Scripted

def Mailbox.Sends (mailbox : Mailbox) : Prop :=
  ∀ attempt ∈ mailbox.sends.head?, attempt.ending = .done ∧
    ∀ due ∈ mailbox.sendDue, due ≤ mailbox.now + attempt.wait

namespace Mailbox

variable {mailbox : Mailbox} {packet : Bytes}

theorem le_foldr_wait {α : Type} (wait : α → Nat) (steps : List α) (start : Nat) :
    start ≤ steps.foldr (fun step sum => wait step + sum) start := by
  induction steps with
  | nil => exact Nat.le_refl start
  | cons step steps ih => exact Nat.le_trans ih (Nat.le_add_left _ _)

theorem patience_pos (mailbox : Mailbox) : 0 < mailbox.patience :=
  Nat.lt_of_lt_of_le (Nat.lt_of_lt_of_le Nat.one_pos (le_foldr_wait _ _ _)) (le_foldr_wait _ _ _)

theorem wait_lt_patience {attempt : Attempt} {rest : List Attempt} (next : mailbox.sends = attempt :: rest) :
    attempt.wait < mailbox.patience := by
  have others := patience_pos { mailbox with sends := rest }
  simp only [patience] at others
  rw [patience, next, List.foldr_cons]
  exact Nat.lt_add_of_pos_right others

theorem send_reached {attempt : Attempt} {rest : List Attempt} (next : mailbox.sends = attempt :: rest)
    (done : attempt.ending = .done) (reached : mailbox.sendDue.getD (mailbox.now + attempt.wait) ≤ mailbox.now) :
    mailbox.send packet =
      (.ready (.ok ()), { mailbox with sends := rest, sendDue := none, sent := packet :: mailbox.sent }) := by
  obtain ⟨wait, ending⟩ := attempt
  cases done
  unfold send
  rw [next]
  exact if_neg (Nat.not_lt.mpr reached)

theorem send_early {attempt : Attempt} {rest : List Attempt} (next : mailbox.sends = attempt :: rest)
    (early : mailbox.now < mailbox.sendDue.getD (mailbox.now + attempt.wait)) :
    mailbox.send packet = (.stalled (.clock (mailbox.sendDue.getD (mailbox.now + attempt.wait))),
      { mailbox with sendDue := some (mailbox.sendDue.getD (mailbox.now + attempt.wait)) }) := by
  unfold send
  rw [next]
  exact if_pos early

/-- A send to a far end that takes everything runs to its end before the patience is over. -/
theorem course_send (packet : Bytes) (sends : mailbox.Sends) :
    ∃ after, Timeline.Course (Timeline.ofCall fun mailbox : Mailbox => Carrier.send mailbox packet) none () mailbox
        (.ok ()) () after ∧
      after.sent = packet :: mailbox.sent ∧ after.now < mailbox.now + mailbox.patience := by
  have sending : ∀ {before after : Mailbox} {answer : Poll (Except TunnelError Unit)},
      before.send packet = (answer, after) →
      Timeline.ofCall (fun mailbox : Mailbox => Carrier.send mailbox packet) () before = (answer, (), after) := by
    intro before after answer done
    rw [Timeline.ofCall, show Carrier.send before packet = (answer, after) from done]
  cases script : mailbox.sends with
  | nil =>
      refine ⟨{ mailbox with sent := packet :: mailbox.sent }, .ready (sending ?_), rfl, ?_⟩
      · rw [send, script]
      · exact Nat.lt_add_of_pos_right mailbox.patience_pos
  | cons attempt rest =>
      have patient := wait_lt_patience script
      obtain ⟨done, bounded⟩ := sends attempt (by rw [script]; rfl)
      have dueBy : mailbox.sendDue.getD (mailbox.now + attempt.wait) ≤ mailbox.now + attempt.wait := by
        cases set : mailbox.sendDue with
        | none => exact Nat.le_refl _
        | some due => exact bounded due set
      by_cases reached : mailbox.sendDue.getD (mailbox.now + attempt.wait) ≤ mailbox.now
      · exact ⟨_, .ready (sending (send_reached script done reached)), rfl, by dsimp only; omega⟩
      · -- The clock goes on to the end of the wait, and then the packet is taken.
        have early := Nat.not_le.mp reached
        have later : (Timeline.setClock { mailbox with sendDue := some (mailbox.sendDue.getD (mailbox.now + attempt.wait)) }
            (mailbox.sendDue.getD (mailbox.now + attempt.wait))).send packet = (.ready (.ok ()), _) :=
          send_reached script done (Nat.le_refl _)
        refine ⟨_, .stalled (sending (send_early script early)) (.woken rfl ?_ rfl (.again rfl ?_ (.ready (sending later)))),
          rfl, ?_⟩
        · exact fun ripe => Nat.not_le.mpr early (of_decide_eq_true ripe)
        · exact decide_eq_true (Nat.le_refl _)
        · exact Nat.lt_of_le_of_lt dueBy (Nat.add_lt_add_left patient _)

end Mailbox

namespace Mailing

theorem transmit_sent {mailbox : Mailbox} (packet : Bytes) (sends : mailbox.Sends) (length : Nat) :
    ∃ after, transmit mailbox packet length = (.sent length, after) ∧ after.sent = packet :: mailbox.sent := by
  obtain ⟨after, course, sent, early⟩ := Mailbox.course_send packet sends
  refine ⟨after, ?_, sent⟩
  have timeless : Timeline.Timeless (Timeline.ofCall fun mailbox : Mailbox => Carrier.send mailbox packet) :=
    fun _ mailbox => mailbox.now_send packet
  rw [transmit, Timeline.driveCall_eq, (Timeline.drive_early timeless early).mpr course]

end Mailing

end Scripted

namespace Tunnel

open Scripted

variable {key : MasterKey} {target : Target} {payload : Bytes}

theorem receiveFrom_revealed {κ : Type} [Carrier κ] {tunnel : Tunnel κ} {next : κ} {packet : Bytes} {source : Target}
    (revealed : Datagram.reveal tunnel.key packet = .ok (source, payload))
    (came : Carrier.receive tunnel.proxy Datagram.largest = (.ready (.ok packet), next)) (buffer : Bytes) :
    tunnel.receiveFrom buffer =
      if payload.length ≤ buffer.length then
        (.ready (.ok (payload.length, source)), payload ++ buffer.drop payload.length, { tunnel with proxy := next })
      else
        (.ready (.error (.fault (.shortBuffer payload.length buffer.length))), payload.take buffer.length,
          { tunnel with proxy := next }) := by
  rw [receiveFrom_packet came]
  split
  · rename_i fits
    rw [Datagram.deliver_fits revealed (Nat.not_lt.mpr fits)]
    rfl
  · rename_i cut
    rw [Datagram.deliver_cut revealed (Nat.not_le.mp cut)]
    rfl

end Tunnel
end SealedTunnel
