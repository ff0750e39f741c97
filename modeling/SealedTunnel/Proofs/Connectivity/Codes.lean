import SealedTunnel.Proofs.Connectivity.Revealing
import SealedTunnel.Proofs.Datagram.Lossless
import SealedTunnel.Proofs.Dialing.Background
import SealedTunnel.Proofs.Stream.Reporting

namespace SealedTunnel

theorem Posix.errnoKind_eq_interrupted {code : Int} : errnoKind code = .interrupted ↔ code = 4 := by
  have only : ∀ entry ∈ kinds, entry.2 = .interrupted → entry.1 = 4 := by decide
  constructor
  · intro interrupted
    unfold errnoKind at interrupted
    cases found : kinds.lookup code with
    | none =>
        rw [found] at interrupted
        cases interrupted
    | some kind =>
        rw [found] at interrupted
        obtain ⟨front, back, split, -⟩ := List.lookup_eq_some_iff.mp found
        exact only (code, kind) (split ▸ List.mem_append_right front List.mem_cons_self) interrupted
  · rintro rfl
    rfl

namespace Scripted

open Connectivity (explained)

def Line.ledgers : Ledgers Line := ⟨sendFaults, receiveFaults⟩

def Session.ledgers : Ledgers Session := ⟨sendFaults, receiveFaults⟩

def Mailbox.ledgers : Ledgers Mailbox := ⟨explained sendFaults, explained receiveFaults⟩

end Scripted

def Bound.ledgers {κ : Type} (ledgers : Ledgers κ) : Ledgers (Bound κ) :=
  ⟨fun bound => ledgers.sends bound.tunnel.proxy, fun bound => ledgers.receives bound.tunnel.proxy⟩

namespace Connectivity

open Scripted (Site Line Session Mailbox)
open Timeline (Driven)

section Enters

variable {γ : Type} [Timeline γ]

theorem enters_direct {ledgers : Ledgers γ} (still : ∀ (line : γ) (time : Nat),
    ledgers.sends (Timeline.setClock line time) = ledgers.sends line ∧
      ledgers.receives (Timeline.setClock line time) = ledgers.receives line) :
    Enters Site.direct ledgers ledgers fun _ => True where
  now := rfl
  connect _ _ := Or.inr ⟨id, rfl, fun line time => ⟨trivial, still line time⟩⟩

theorem enters_throughDialer (dialer : Dialer) (address : String) :
    Enters (Site.throughDialer dialer address) Line.ledgers Session.ledgers (·.dialed.Primed) where
  now := rfl
  connect deadline site := by
    unfold Site.throughDialer
    dsimp only
    cases Dialer.header address with
    | error fault => exact Or.inl ⟨fault, rfl⟩
    | ok header => exact Or.inr ⟨_, rfl, fun _ _ => ⟨Dialed.primed_establish dialer header _ _ _, rfl, rfl⟩⟩

theorem enters_throughTunnel (key : MasterKey) (salts : SaltSource) (address : String) :
    Enters (Site.throughTunnel key salts address) Mailbox.ledgers (Bound.ledgers Mailbox.ledgers) fun _ => True where
  now := rfl
  connect deadline site := by
    unfold Site.throughTunnel
    dsimp only
    cases Target.parse address with
    | error fault => exact Or.inl ⟨fault, rfl⟩
    | ok remote => exact Or.inr ⟨_, rfl, fun _ _ => ⟨trivial, rfl, rfl⟩⟩

end Enters

/-- A test shows every error with a code that the connection raises, at its stage and by the name of its code, but for
those that are not told. -/
def TellsCodes {γ δ : Type} (route : Route (Journey (Site γ) δ)) (far : Ledgers γ) (near : Ledgers δ)
    (untold : Stage → Int → Prop) : Prop :=
  ∀ (id : UInt16) (domain : String) (limit : Nat) (site : Site γ) (outcome : Except TunnelError Result)
    (after : Journey (Site γ) δ) (stage : Stage) (code : Int),
    probe route id domain limit (.ofSite site) = (outcome, after) → Raises far near limit site after stage (.os code) →
      ¬ untold stage code → ∃ duration, outcome = .ok ⟨duration, some ⟨stage, Posix.errnoName code, .os code⟩⟩

def Interrupts (stage : Stage) (code : Int) : Prop := stage = .send ∧ code = 4

theorem tellsCodes_stream {γ δ : Type} [Timeline γ] [Timeline δ] [ByteSink δ] [ByteSource δ] {access : Access (Site γ) δ}
    {far : Ledgers γ} {near : Ledgers δ} {primed settled : δ → Prop}
    (candid : CandidStream near.sends near.receives primed settled) (enters : Enters access far near primed) :
    TellsCodes (streamRoute access) far near Interrupts := by
  intro id domain limit site outcome after stage code tested raises told
  refine (reveals_streamRoute candid access).probe enters rfl (congrFun enters.now site) tested raises ?_
  intro sending interrupted
  exact told ⟨sending, Posix.errnoKind_eq_interrupted.mp interrupted⟩

theorem tellsCodes_datagrams {γ δ : Type} [Timeline γ] [Timeline δ] [Carrier δ] {access : Access (Site γ) δ}
    {far : Ledgers γ} {sends receives : δ → List TunnelError} (candid : CandidCarrier sends receives)
    (enters : Enters access far ⟨explained sends, explained receives⟩ fun _ => True) :
    TellsCodes (datagramRoute access) far ⟨explained sends, explained receives⟩ fun _ _ => False := by
  intro id domain limit site outcome after stage code tested raises _
  exact (reveals_datagramRoute candid access).probe enters rfl (congrFun enters.now site) tested raises fun _ => not_false

theorem probe_exchanged {ω : Type} {route : Route ω} {id : UInt16} {domain : String} {query : Bytes} {limit : Nat}
    {world connected after : ω} {failure : Failure} (built : Dns.buildQuery id domain = .ok query)
    (made : route.connect (route.now world + limit) world = (some (.ok ()), connected))
    (exchanged : exchange route query (route.now world + limit) (.ofMillis limit) connected = (.error failure, after)) :
    probe route id domain limit world = (.ok ⟨route.now after - route.now world, some failure⟩, after) := by
  have ran : run route query (route.now world + limit) (.ofMillis limit) world = _ := run_connected made
  rw [exchanged] at ran
  exact probe_asked built limit ran

def question : Bytes := Dns.encodeQuery 7 [1, 97, 2, 105, 111, 0]

theorem asks_question : Dns.buildQuery 7 "a.io" = .ok question := rfl

/-- A far end that takes a while to take anything, and then is gone. -/
def resetting : Line := ⟨.ofBytes [], .ofScript [.yield, .fail (.os 104)] [] [] none⟩

theorem pollSend_flushes {γ : Type} [ByteSink γ] {line sent after : γ} {bytes left : Bytes}
    {answer : Poll (Except IoError Unit)} (drained : drain .stuck line bytes = (.ready (.ok ()), left, sent))
    (flushed : ByteSink.flush sent = (answer, after)) : pollSend (.writing bytes) line = (answer, .flushing, after) := by
  rw [pollSend, drained]
  dsimp only
  rw [flushed]

theorem write_session {session : Session} {data : Bytes} {answer : Poll (Except IoError Nat)} {stream : Duplex _ _}
    (wrote : session.dialed.stream.pollWrite data = (answer, stream)) :
    ByteSink.write session data = (answer, { session with dialed := { session.dialed with stream } }) := by
  have calls : ByteSink.write session data = ((session.dialed.stream.pollWrite data).1,
      { session with dialed := { session.dialed with stream := (session.dialed.stream.pollWrite data).2 } }) := rfl
  rw [calls, wrote]

theorem flush_session {session : Session} {answer : Poll (Except IoError Unit)} {stream : Duplex _ _}
    (flushed : session.dialed.stream.pollFlush = (answer, stream)) :
    ByteSink.flush session = (answer, { session with dialed := { session.dialed with stream } }) := by
  have calls : ByteSink.flush session = (session.dialed.stream.pollFlush.1,
      { session with dialed := { session.dialed with stream := session.dialed.stream.pollFlush.2 } }) := rfl
  rw [calls, flushed]

theorem send_resetting (framed : Bytes) (some : framed ≠ []) : ∃ session : Session, session.sink.writes = [] ∧
    Timeline.drive pollSend 10 (.writing framed)
      (⟨Dialer.eager.establish Dialer.loopback resetting.source resetting.sink 0, none⟩ : Session) =
        (Option.some (.error (.os 104)), .flushing, session) := by
  let fresh := Dialer.eager.establish Dialer.loopback resetting.source resetting.sink 0
  let left := { resetting.sink with writes := [.fail (.os 104)] }
  obtain ⟨cipher, ofSalt⟩ := Dialer.eager.key.session_ok (Bytes.zeros 16)
  obtain ⟨sealer, sealed, full, polled⟩ := @Duplex.first_poll_stalls _ _ left .yielded fresh.stream.writer
    Dialer.eager.key Dialer.eager.salts _ cipher framed rfl rfl rfl ofSalt (fun bytes _ => rfl) some
  obtain ⟨stream, wrote, held, sink⟩ : ∃ stream : Duplex _ _,
      fresh.stream.pollWrite framed = (.ready (.ok framed.length), stream) ∧
        stream.inFlight = Option.some ⟨.write framed, .sending 0 sealed⟩ ∧ stream.writer.sink = left :=
    ⟨_, Duplex.pollWrite_unfinished rfl some polled, rfl, rfl⟩
  have accepted := @write_session ⟨fresh, none⟩ _ _ _ wrote
  have failed : ByteSink.write stream.writer.sink sealed = (.ready (.error (.os 104)), { left with writes := [] }) := by
    rw [sink]
    rfl
  have fails := Duplex.perform_failed (Duplex.pollInFlight_fails held full failed (by decide)) .flush
  have flushed := @flush_session ⟨⟨stream, fresh.deferred⟩, none⟩ _ _ fails
  have tried := pollSend_flushes (drain_takes .stuck some accepted) flushed
  exact ⟨_, rfl, Timeline.drive_eq_some.mpr (.ready tried)⟩

theorem send_stream {ι γ : Type} [Timeline γ] [ByteSink γ] [ByteSource γ] {access : Access ι γ} {site : ι} {line after : γ}
    {query framed : Bytes} {deadline : Nat} {state : Sending} {result : Option (Except IoError Unit)}
    (made : frame query = .ok framed)
    (driven : Timeline.drive pollSend deadline (.writing framed) line = (result, state, after)) :
    (streamRoute access).send query deadline ⟨site, some line⟩ = (result, ⟨site, some after⟩) := by
  unfold streamRoute Journey.act
  dsimp only
  rw [made]
  dsimp only
  rw [driven]

theorem pollExactly_ended {γ : Type} [ByteSource γ] {early : IoError} {needed : Nat} {read : Bytes} {line after : γ}
    (short : ¬ needed ≤ read.length)
    (ended : ByteSource.read line (needed - read.length) = (.ready (.ok []), after)) :
    pollExactly early needed read line = (.ready (.error early), read, after) := by
  fun_cases pollExactly early needed read line with
  | case1 enough => exact absurd enough short
  | case2 _ reason next came | case3 _ error next came | case5 _ byte rest next came => cases ended.symm.trans came
  | case4 _ next came =>
      cases ended.symm.trans came
      rfl

theorem receive_ended {ι γ : Type} [Timeline γ] [ByteSink γ] [ByteSource γ] {access : Access ι γ} {site : ι}
    {line after : γ} (ended : ByteSource.read line 2 = (.ready (.ok []), after)) (deadline : Nat) :
    (streamRoute access).receive deadline ⟨site, some line⟩ = (some (.error (.bare .unexpectedEof)), ⟨site, some after⟩) := by
  have tried : pollReceive (.length []) line = (.ready (.error (.bare .unexpectedEof)), .length [], after) := by
    rw [pollReceive, pollExactly_ended (by decide) ended]
  unfold streamRoute Journey.act
  dsimp only
  rw [Timeline.drive_eq_some.mpr (.ready tried)]

section Datagrams

variable {ι κ : Type} [Timeline κ] [Carrier κ] {access : Access ι κ} {site : ι} {carrier wrapped after : κ}
  {query packet : Bytes} {deadline : Nat}

theorem send_datagram {result : Except IoError Unit} (made : Carrier.wrap carrier query = (.ok packet, wrapped))
    (run : Driven (Timeline.ofCall (pollSendDatagram packet)) deadline none () wrapped (some result) () after) :
    (datagramRoute access).send query deadline ⟨site, some carrier⟩ = (some result, ⟨site, some after⟩) := by
  unfold datagramRoute Journey.act
  dsimp only
  rw [made]
  dsimp only
  rw [Timeline.driveCall_eq, Timeline.drive_eq_some.mpr run]

theorem receive_datagram {result : Except IoError Bytes}
    (run : Driven (Timeline.ofCall pollReceiveDatagram) deadline none () carrier (some result) () after) :
    (datagramRoute access).receive deadline ⟨site, some carrier⟩ = (some result, ⟨site, some after⟩) := by
  unfold datagramRoute Journey.act
  dsimp only
  rw [Timeline.driveCall_eq, Timeline.drive_eq_some.mpr run]

end Datagrams

end Connectivity
end SealedTunnel
