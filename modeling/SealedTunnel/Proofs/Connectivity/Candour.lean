import SealedTunnel.Connectivity.Framing
import SealedTunnel.Proofs.Dialing.Candour
import SealedTunnel.Proofs.Scripted.Faults
import SealedTunnel.Proofs.Timeline.Obeying

/-!
Sending and receiving a message tell the errors that the connection below raises, whether it is a stream or carries
datagrams, and whether it leads through a proxy or not.
-/
namespace SealedTunnel

open Timeline (background setClock)

section Laws

variable {γ κ : Type}

/-- A stream that raises errors of sending only when it writes and errors of receiving only when it reads, and tells them
at once, but for an interrupted write. In the background it raises none, provided that a write has come before. -/
structure CandidStream [Timeline γ] [ByteSink γ] [ByteSource γ] (sends receives : γ → List IoError)
    (primed settled : γ → Prop) : Prop where
  write : ∀ (line : γ) (bytes : Bytes), Shows sends receives (·.kind = .interrupted) (ByteSink.write line bytes).1.failure?
    line (ByteSink.write line bytes).2
  flush : ∀ line : γ, Shows sends receives (·.kind = .interrupted) (ByteSink.flush line).1.failure? line
    (ByteSink.flush line).2
  read : ∀ (line : γ) (room : Nat), Shows receives sends (fun _ => False) (ByteSource.read line room).1.failure? line
    (ByteSource.read line room).2
  setClock : ∀ (line : γ) (time : Nat), sends (setClock line time) = sends line ∧ receives (setClock line time) = receives line
  background : ∀ {line next : γ}, settled line → background line = some next →
    settled next ∧ sends next = sends line ∧ receives next = receives line
  primed_of_settled : ∀ {line : γ}, settled line → primed line
  settled_write : ∀ {line : γ} {bytes : Bytes}, primed line → bytes ≠ [] → settled (ByteSink.write line bytes).2
  settled_flush : ∀ {line : γ}, settled line → settled (ByteSink.flush line).2
  settled_read : ∀ {line : γ} (room : Nat), settled line → settled (ByteSource.read line room).2
  settled_setClock : ∀ {line : γ} (time : Nat), settled line → settled (Timeline.setClock line time)

structure CandidCarrier [Timeline κ] [Carrier κ] (sends receives : κ → List TunnelError) : Prop where
  wrap : ∀ (carrier : κ) (payload : Bytes), sends (Carrier.wrap carrier payload).2 = sends carrier ∧
    receives (Carrier.wrap carrier payload).2 = receives carrier
  send : ∀ (carrier : κ) (packet : Bytes), Shows sends receives (fun _ => False) (Carrier.send carrier packet).1.failure?
    carrier (Carrier.send carrier packet).2
  receive : ∀ (carrier : κ) (room : Nat), Shows receives sends (fun _ => False) (Carrier.receive carrier room).1.failure?
    carrier (Carrier.receive carrier room).2
  setClock : ∀ (carrier : κ) (time : Nat), sends (setClock carrier time) = sends carrier ∧
    receives (setClock carrier time) = receives carrier
  background : ∀ {carrier next : κ}, background carrier = some next →
    sends next = sends carrier ∧ receives next = receives carrier

end Laws

namespace Scripted

namespace Line

def sendFaults (line : Line) : List IoError := line.sink.faults

def receiveFaults (line : Line) : List IoError := line.source.faults

theorem candid : CandidStream sendFaults receiveFaults (fun _ => True) fun _ => True where
  write line bytes := ⟨Sink.telling.write line.sink bytes, rfl⟩
  flush line := ⟨Sink.telling.flush line.sink, rfl⟩
  read line room := ⟨Source.telling line.source room, rfl⟩
  setClock _ _ := ⟨rfl, rfl⟩
  background _ stepped := by cases stepped
  primed_of_settled := id
  settled_write _ _ := trivial
  settled_flush := id
  settled_read _ := id
  settled_setClock _ := id

end Line

namespace Session

def sendFaults (session : Session) : List IoError := session.sink.faults

def receiveFaults (session : Session) : List IoError := session.source.faults

theorem candid : CandidStream sendFaults receiveFaults (·.dialed.Primed) (·.dialed.Spent) where
  write session bytes := by
    have told := Sink.telling.duplex.write session.dialed.stream bytes
    exact ⟨told, congrArg (·.source.faults) (session.dialed.stream.reader_pollWrite bytes)⟩
  flush session := by
    have told := Sink.telling.duplex.flush session.dialed.stream
    exact ⟨told, congrArg (·.source.faults) session.dialed.stream.reader_pollFlush⟩
  read session room := ⟨Source.telling.reader session.dialed.stream.reader room, rfl⟩
  setClock _ _ := ⟨rfl, rfl⟩
  background := by
    intro session next spent stepped
    obtain ⟨still, same⟩ := Dialed.Spent.pollDeferred_bare Sink.faults_close spent session.now
    have read := session.dialed.reader_pollDeferred session.now
    change session.background = some next at stepped
    unfold Session.background at stepped
    split at stepped
    · cases stepped
    · cases stepped
      exact ⟨still, same, congrArg (·.source.faults) read⟩
  primed_of_settled spent := spent.primed
  settled_write primed some := primed.pollWrite some
  settled_flush spent := spent.pollFlush
  settled_read _ spent := ⟨spent.queued, spent.bare⟩
  settled_setClock _ spent := ⟨spent.queued, spent.bare⟩

end Session

theorem Mailbox.candid : CandidCarrier Mailbox.sendFaults Mailbox.receiveFaults where
  wrap _ _ := ⟨rfl, rfl⟩
  send := Mailbox.shows_send
  receive mailbox room := mailbox.shows_receiveNext room mailbox.incoming
  setClock _ _ := ⟨rfl, rfl⟩
  background stepped := by cases stepped

end Scripted

section Bound

variable {κ : Type} [Timeline κ] [Carrier κ] {sends receives : κ → List TunnelError}

theorem CandidCarrier.receiveFrom (candid : CandidCarrier sends receives) {tunnel next : Tunnel κ} {buffer after : Bytes}
    {answer : Poll (Except TunnelError (Nat × Target))} (done : tunnel.receiveFrom buffer = (answer, after, next)) :
    Shows receives sends (fun _ => False) answer.failure? tunnel.proxy next.proxy := by
  have shown := candid.receive tunnel.proxy Datagram.largest
  unfold Tunnel.receiveFrom at done
  split at done <;> rename_i came <;> rw [came] at shown <;> cases done
  · exact shown
  · exact shown
  · -- A packet that is refused raises nothing.
    exact shown.trans (.refl _ _ _)

theorem CandidCarrier.receiveBound (candid : CandidCarrier sends receives) (bound : Bound κ) (buffer : Bytes) :
    Shows receives sends (fun _ => False) (bound.receive buffer).1.failure? bound.tunnel.proxy
      (bound.receive buffer).2.2.tunnel.proxy := by
  fun_induction Bound.receive bound buffer with
  | case1 _ _ _ _ _ came | case2 _ _ _ _ _ came | case3 _ _ _ _ _ came => exact candid.receiveFrom came
  | case4 _ _ _ _ _ _ came _ ih => exact (candid.receiveFrom came).trans ih

theorem CandidCarrier.bound (candid : CandidCarrier sends receives) :
    CandidCarrier (fun bound : Bound κ => sends bound.tunnel.proxy) fun bound => receives bound.tunnel.proxy where
  wrap bound payload := by
    change sends (bound.wrap payload).2.tunnel.proxy = _ ∧ receives (bound.wrap payload).2.tunnel.proxy = _
    unfold Bound.wrap Tunnel.wrapTo
    cases Datagram.sealTo bound.tunnel.key bound.tunnel.salts bound.remote payload with
    | error => exact ⟨rfl, rfl⟩
    | ok packet => exact candid.wrap bound.tunnel.proxy packet
  send bound packet := candid.send bound.tunnel.proxy packet
  receive bound room := by
    have shown := candid.receiveBound bound (Bytes.zeros room)
    change Shows _ _ _ (bound.receiveBytes room).1.failure? bound (bound.receiveBytes room).2
    unfold Bound.receiveBytes
    split <;> rename_i came <;> rw [came] at shown <;> exact shown
  setClock bound := candid.setClock bound.tunnel.proxy
  background := by
    intro bound next stepped
    obtain ⟨tunnel, inner, rfl⟩ := Option.map_eq_some_iff.mp stepped
    obtain ⟨proxy, came, rfl⟩ := Option.map_eq_some_iff.mp inner
    exact candid.background came

end Bound

namespace Connectivity

open Timeline (Obeys ofCall)

theorem failureOf_value? {ε α : Type} (answer : Poll (Except ε α)) : failureOf answer.value? = answer.failure? := by
  obtain (error | value) | reason := answer <;> rfl

section Stream

variable {γ : Type} [Timeline γ] [ByteSink γ] [ByteSource γ] {sends receives : γ → List IoError} {primed settled : γ → Prop}

theorem drain_candid (candid : CandidStream sends receives primed settled) (stuck : IoError) (line : γ) (bytes : Bytes)
    (ready : primed line) (begun : settled line ∨ bytes ≠ []) :
    settled (drain stuck line bytes).2.2 ∧
      Shows sends receives (·.kind = .interrupted) (drain stuck line bytes).1.failure? line (drain stuck line bytes).2.2 := by
  have writes : ∀ {line next : γ} {bytes : Bytes} {answer : Poll (Except IoError Nat)}, primed line →
      ¬ bytes.length = 0 → ByteSink.write line bytes = (answer, next) →
      settled next ∧ Shows sends receives (·.kind = .interrupted) answer.failure? line next := by
    intro line next bytes answer ready full written
    have after := candid.settled_write ready fun none => full (congrArg List.length none)
    have shown := candid.write line bytes
    rw [written] at after shown
    exact ⟨after, shown⟩
  fun_induction drain stuck line bytes with
  | case1 line bytes none =>
      have rested := begun.resolve_right fun full => full (List.length_eq_zero_iff.mp none)
      exact ⟨rested, .refl _ _ _⟩
  | case2 _ _ full _ _ written | case4 _ _ full _ _ written => exact writes ready full written
  | case3 _ _ full _ _ written interrupted ih =>
      obtain ⟨rested, shown⟩ := writes ready full written
      obtain ⟨after, later⟩ := ih (candid.primed_of_settled rested) (Or.inl rested)
      exact ⟨after, (shown.spare interrupted).trans later⟩
  | case5 _ _ full _ written =>
      obtain ⟨rested, shown⟩ := writes ready full written
      exact ⟨rested, shown.trans (.refl _ _ _)⟩
  | case6 _ _ full _ _ written ih =>
      obtain ⟨rested, shown⟩ := writes ready full written
      obtain ⟨after, later⟩ := ih (candid.primed_of_settled rested) (Or.inl rested)
      exact ⟨after, shown.trans later⟩

/-- Sending may begin before anything was written, but then it has something to write. -/
def Sending.Begins (primed settled : γ → Prop) (sending : Sending) (line : γ) : Prop :=
  settled line ∨ primed line ∧ ∃ rest, sending = .writing rest ∧ rest ≠ []

theorem pollSend_candid (candid : CandidStream sends receives primed settled) {sending : Sending} {line : γ}
    (begins : sending.Begins primed settled line) : settled (pollSend sending line).2.2 ∧
      Shows sends receives (·.kind = .interrupted) (pollSend sending line).1.failure? line (pollSend sending line).2.2 := by
  have flushes : ∀ {line : γ}, settled line → settled (ByteSink.flush line).2 ∧
      Shows sends receives (·.kind = .interrupted) (ByteSink.flush line).1.failure? line (ByteSink.flush line).2 :=
    fun rested => ⟨candid.settled_flush rested, candid.flush _⟩
  cases sending with
  | flushing =>
      rcases begins with rested | ⟨_, _, none, _⟩
      · exact flushes rested
      · cases none
  | writing rest =>
      have start : primed line ∧ (settled line ∨ rest ≠ []) := by
        rcases begins with rested | ⟨ready, _, same, full⟩
        · exact ⟨candid.primed_of_settled rested, Or.inl rested⟩
        · cases same
          exact ⟨ready, Or.inr full⟩
      have drained := drain_candid candid .stuck line rest start.1 start.2
      unfold pollSend
      dsimp only
      split <;> rename_i came <;> rw [came] at drained
      · exact drained
      · exact drained
      · obtain ⟨rested, shown⟩ := drained
        exact (flushes rested).imp_right shown.trans

theorem pollSend_obeys (candid : CandidStream sends receives primed settled) :
    Obeys pollSend (Sending.Begins primed settled) settled fun result before after =>
      Shows sends receives (·.kind = .interrupted) (failureOf result) before after where
  trans := Shows.trans
  tried begins := by
    rw [failureOf_value?]
    exact pollSend_candid candid begins
  again _ := Or.inl
  background rested stepped := by
    obtain ⟨still, same, kept⟩ := candid.background rested stepped
    exact ⟨still, .of_eq same kept⟩
  setClock time := ⟨.of_eq (candid.setClock _ time).1 (candid.setClock _ time).2, candid.settled_setClock time⟩

theorem pollExactly_candid (candid : CandidStream sends receives primed settled) (early : IoError) (needed : Nat)
    (read : Bytes) (line : γ) (rested : settled line) : settled (pollExactly early needed read line).2.2 ∧
      Shows receives sends (fun _ => False) (pollExactly early needed read line).1.failure? line
        (pollExactly early needed read line).2.2 := by
  have reads : ∀ {line next : γ} {room : Nat} {answer : Poll (Except IoError Bytes)}, settled line →
      ByteSource.read line room = (answer, next) →
      settled next ∧ Shows receives sends (fun _ => False) answer.failure? line next := by
    intro line next room answer rested came
    have after := candid.settled_read room rested
    have shown := candid.read line room
    rw [came] at after shown
    exact ⟨after, shown⟩
  fun_induction pollExactly early needed read line with
  | case1 => exact ⟨rested, .refl _ _ _⟩
  | case2 _ _ _ _ _ came | case3 _ _ _ _ _ came => exact reads rested came
  | case4 _ _ _ _ came =>
      obtain ⟨after, shown⟩ := reads rested came
      exact ⟨after, shown.trans (.refl _ _ _)⟩
  | case5 _ _ _ _ _ _ came ih =>
      obtain ⟨after, shown⟩ := reads rested came
      exact (ih after).imp_right shown.trans

theorem pollReceive_candid (candid : CandidStream sends receives primed settled) (receiving : Receiving) {line : γ}
    (rested : settled line) : settled (pollReceive receiving line).2.2 ∧
      Shows receives sends (fun _ => False) (pollReceive receiving line).1.failure? line
        (pollReceive receiving line).2.2 := by
  cases receiving with
  | body size read => exact pollExactly_candid candid _ size read line rested
  | length read =>
      have first := pollExactly_candid candid (.bare .unexpectedEof) 2 read line rested
      unfold pollReceive
      dsimp only
      split <;> rename_i came <;> rw [came] at first
      · exact first
      · exact first
      · obtain ⟨after, shown⟩ := first
        exact (pollExactly_candid candid _ _ [] _ after).imp_right shown.trans

theorem pollReceive_obeys (candid : CandidStream sends receives primed settled) :
    Obeys pollReceive (fun (_ : Receiving) => settled) settled fun result before after =>
      Shows receives sends (fun _ => False) (failureOf result) before after where
  trans := Shows.trans
  tried rested := by
    rw [failureOf_value?]
    exact pollReceive_candid candid _ rested
  again _ := id
  background rested stepped := by
    obtain ⟨still, same, kept⟩ := candid.background rested stepped
    exact ⟨still, .of_eq kept same⟩
  setClock time := ⟨.of_eq (candid.setClock _ time).2 (candid.setClock _ time).1, candid.settled_setClock time⟩

end Stream

section Datagrams

variable {κ : Type} [Timeline κ] [Carrier κ] {sends receives : κ → List TunnelError}

theorem failure?_map_mapError {ε ε' α : Type} (answer : Poll (Except ε α)) (explain : ε → ε') :
    (answer.map (·.mapError explain)).failure? = answer.failure?.map explain := by
  obtain (error | value) | reason := answer <;> rfl

def explained (errors : κ → List TunnelError) (carrier : κ) : List IoError := (errors carrier).map TunnelError.toIoError

omit [Carrier κ] in
theorem explained_obeys {α : Type} {told kept : κ → List TunnelError} {call : κ → Poll (Except TunnelError α) × κ}
    (shows : ∀ carrier, Shows told kept (fun _ => False) (call carrier).1.failure? carrier (call carrier).2)
    (setClock : ∀ carrier time, told (setClock carrier time) = told carrier ∧ kept (setClock carrier time) = kept carrier)
    (background : ∀ {carrier next : κ}, background carrier = some next → told next = told carrier ∧ kept next = kept carrier) :
    Obeys (ofCall fun carrier => ((call carrier).1.map (·.mapError TunnelError.toIoError), (call carrier).2))
      (fun _ _ => True) (fun _ => True) fun result before after =>
        Shows (explained told) (explained kept) (fun _ => False) (failureOf result) before after where
  trans := Shows.trans
  tried {_ carrier} _ := by
    rw [failureOf_value?]
    refine ⟨trivial, ?_⟩
    unfold ofCall
    rw [failure?_map_mapError]
    exact (shows carrier).map TunnelError.toIoError
  again _ := id
  background _ stepped := by
    obtain ⟨same, still⟩ := background stepped
    have shown : Shows told kept (fun _ => False) none _ _ := .of_eq same still
    exact ⟨trivial, shown.map TunnelError.toIoError⟩
  setClock {carrier} time := by
    obtain ⟨same, still⟩ := setClock carrier time
    have shown : Shows told kept (fun _ => False) none _ _ := .of_eq same still
    exact ⟨shown.map TunnelError.toIoError, id⟩

theorem pollSendDatagram_obeys (candid : CandidCarrier sends receives) (packet : Bytes) :
    Obeys (ofCall (pollSendDatagram packet)) (fun _ _ => True) (fun (_ : κ) => True) fun result before after =>
      Shows (explained sends) (explained receives) (fun _ => False) (failureOf result) before after :=
  explained_obeys (candid.send · packet) candid.setClock candid.background

theorem pollReceiveDatagram_obeys (candid : CandidCarrier sends receives) :
    Obeys (ofCall pollReceiveDatagram) (fun _ _ => True) (fun (_ : κ) => True) fun result before after =>
      Shows (explained receives) (explained sends) (fun _ => False) (failureOf result) before after :=
  explained_obeys (candid.receive · datagramRoom) (fun carrier time => (candid.setClock carrier time).symm)
    fun stepped => (candid.background stepped).symm

end Datagrams
end Connectivity
end SealedTunnel
