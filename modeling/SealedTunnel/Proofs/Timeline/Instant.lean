import SealedTunnel.Proofs.Dialing.Keeping
import SealedTunnel.Proofs.Timeline.Course
import SealedTunnel.Scripted.Line
import SealedTunnel.Scripted.Mailbox

/-! Connections whose calls take no time: the scripted ones do not, and neither do those that lead through a proxy over
such a connection. -/
namespace SealedTunnel

open Timeline (Regular now)

class InstantStream (γ : Type) [Timeline γ] [ByteSink γ] [ByteSource γ] : Prop extends Regular γ where
  now_write : ∀ (line : γ) (bytes : Bytes), now (ByteSink.write line bytes).2 = now line
  now_flush : ∀ line : γ, now (ByteSink.flush line).2 = now line
  now_shutdown : ∀ line : γ, now (ByteSink.shutdown line).2 = now line
  now_read : ∀ (line : γ) (room : Nat), now (ByteSource.read line room).2 = now line
  read_le : ∀ (line : γ) (room : Nat) (bytes : Bytes), (ByteSource.read line room).1 = .ready (.ok bytes) →
    bytes.length ≤ room

class InstantCarrier (κ : Type) [Timeline κ] [Carrier κ] : Prop extends Regular κ where
  now_wrap : ∀ (carrier : κ) (payload : Bytes), now (Carrier.wrap carrier payload).2 = now carrier
  now_send : ∀ (carrier : κ) (packet : Bytes), now (Carrier.send carrier packet).2 = now carrier
  now_receive : ∀ (carrier : κ) (room : Nat), now (Carrier.receive carrier room).2 = now carrier

theorem behaves_instant {γ : Type} [Timeline γ] [ByteSink γ] [ByteSource γ] [InstantStream γ] (time : Nat) :
    Behaves (fun _ => True) fun line : γ => now line = time where
  write := fun {line next bytes answer} here _ done => by
    have same := InstantStream.now_write line bytes
    rw [done] at same
    exact ⟨same.trans here, trivial⟩
  flush := fun {line next answer} here done => by
    have same := InstantStream.now_flush line
    rw [done] at same
    exact ⟨same.trans here, trivial⟩
  shutdown := fun {line next answer} here done => by
    have same := InstantStream.now_shutdown line
    rw [done] at same
    exact ⟨same.trans here, trivial⟩

section Bound

variable {κ : Type} [Timeline κ] [Carrier κ] [InstantCarrier κ]

theorem Tunnel.now_receiveFrom {tunnel next : Tunnel κ} {buffer after : Bytes}
    {answer : Poll (Except TunnelError (Nat × Target))} (done : tunnel.receiveFrom buffer = (answer, after, next)) :
    now next = now tunnel := by
  have same := InstantCarrier.now_receive tunnel.proxy Datagram.largest
  unfold receiveFrom at done
  split at done <;> rename_i came <;> rw [came] at same <;> cases done <;> exact same

theorem Bound.now_receive (bound : Bound κ) (buffer : Bytes) : now (bound.receive buffer).2.2 = now bound := by
  fun_induction receive bound buffer with
  | case1 _ _ _ _ _ came | case2 _ _ _ _ _ came | case3 _ _ _ _ _ came => exact Tunnel.now_receiveFrom came
  | case4 _ _ _ _ _ _ came _ ih => exact ih.trans (Tunnel.now_receiveFrom came)

theorem Bound.now_receiveBytes (bound : Bound κ) (room : Nat) : now (bound.receiveBytes room).2 = now bound := by
  have same := bound.now_receive (Bytes.zeros room)
  unfold receiveBytes
  split <;> rename_i came <;> rw [came] at same <;> exact same

theorem Bound.now_wrap (bound : Bound κ) (payload : Bytes) : now (bound.wrap payload).2 = now bound := by
  unfold Bound.wrap Tunnel.wrapTo
  cases Datagram.sealTo bound.tunnel.key bound.tunnel.salts bound.remote payload with
  | error => rfl
  | ok packet => exact InstantCarrier.now_wrap bound.tunnel.proxy packet

instance : InstantCarrier (Bound κ) where
  now_setClock bound := Regular.now_setClock bound.tunnel.proxy
  now_background bound next stepped := by
    obtain ⟨tunnel, inner, rfl⟩ := Option.map_eq_some_iff.mp stepped
    obtain ⟨proxy, came, rfl⟩ := Option.map_eq_some_iff.mp inner
    exact Regular.now_background bound.tunnel.proxy proxy came
  now_lt_alarm bound due quiet set := by
    have resting := Option.map_eq_none_iff.mp (Option.map_eq_none_iff.mp quiet)
    exact Regular.now_lt_alarm bound.tunnel.proxy due resting set
  now_wrap := Bound.now_wrap
  now_send bound packet := InstantCarrier.now_send bound.tunnel.proxy packet
  now_receive := Bound.now_receiveBytes

end Bound

namespace Scripted

namespace Mailbox

theorem now_receiveNext (mailbox : Mailbox) (room : Nat) (arrivals : List Arrival) :
    (receiveNext mailbox room arrivals).2.now = mailbox.now := by
  fun_induction receiveNext mailbox room arrivals with
  | case5 _ _ _ _ _ _ ih => exact ih
  | _ => rfl

theorem now_send (mailbox : Mailbox) (packet : Bytes) : (mailbox.send packet).2.now = mailbox.now := by
  unfold send
  split
  · rfl
  · dsimp only
    split
    · rfl
    · split <;> rfl

instance : InstantCarrier Mailbox where
  now_setClock _ _ := rfl
  now_background _ _ stepped := by cases stepped
  now_lt_alarm _ _ _ set := by cases set
  now_wrap _ _ := rfl
  now_send := now_send
  now_receive mailbox room := now_receiveNext mailbox room mailbox.incoming

end Mailbox

namespace Sink

theorem now_take (sink : Sink) (bytes : Bytes) (limit : Nat) : (sink.take bytes limit).2.now = sink.now := by
  unfold take
  dsimp only
  split <;> rfl

theorem now_writeNext (sink : Sink) (bytes : Bytes) (outcomes : List WriteOutcome) :
    (writeNext sink bytes outcomes).2.now = sink.now := by
  fun_induction writeNext sink bytes outcomes with
  | case1 | case2 => exact now_take _ _ _
  | case5 _ _ _ _ _ ih => exact ih
  | _ => rfl

theorem now_flush (sink : Sink) : sink.flush.2.now = sink.now := by
  unfold flush
  split <;> rfl

theorem now_shutdown (sink : Sink) : sink.shutdown.2.now = sink.now := by
  unfold shutdown
  split <;> rfl

theorem behaves_now (time : Nat) : Behaves (fun _ => True) fun sink : Sink => sink.now = time where
  write := fun {sink next bytes answer} here _ done => by
    have same := now_writeNext sink bytes sink.writes
    rw [show writeNext sink bytes sink.writes = (answer, next) from done] at same
    exact ⟨same.trans here, trivial⟩
  flush := fun {sink next answer} here done => by
    have same := now_flush sink
    rw [show sink.flush = (answer, next) from done] at same
    exact ⟨same.trans here, trivial⟩
  shutdown := fun {sink next answer} here done => by
    have same := now_shutdown sink
    rw [show sink.shutdown = (answer, next) from done] at same
    exact ⟨same.trans here, trivial⟩

end Sink

instance : InstantStream Line where
  now_setClock _ _ := rfl
  now_background _ _ stepped := by cases stepped
  now_lt_alarm _ _ _ set := by cases set
  now_write line bytes := line.sink.now_writeNext bytes line.sink.writes
  now_flush line := line.sink.now_flush
  now_shutdown line := line.sink.now_shutdown
  now_read _ _ := rfl
  read_le _ _ _ done := Source.length_readItems_le done

end Scripted

section Session

variable {σ : Type} [ByteSink σ] {good : σ → Prop}

theorem Writer.poll_good (behaves : Behaves (fun _ => True) good) {writer : Writer σ} (operation : Operation)
    (here : good writer.sink) : good (writer.poll operation).writer.sink := by
  have turned : ∀ (other : Writer σ) (ticket : Ticket) (stage : Stage), good other.sink →
      good (other.turn operation.request ticket stage).writer.sink :=
    fun other ticket stage there =>
      (other.turn_behaves behaves trivial operation.request ticket stage (Or.inl trivial) there).1
  unfold poll
  dsimp only
  split
  · split
    · exact turned _ _ .unstarted here
    · exact here
  · split
    · exact turned _ _ .unstarted here
    · exact here
  · rename_i ticket rest _
    exact turned _ ticket (.sending ticket rest) here
  · rename_i ticket _
    exact turned _ ticket (.finishing ticket) here
  · exact here

theorem shares_good (behaves : Behaves (fun _ => True) good) :
    Shares fun (writer : Writer σ) (_ : Option Operation) (_ : List Operation) (_ : Bytes) => good writer.sink where
  perm := fun here _ => here
  add := fun _ _ here => here
  accept := fun _ here => here
  first := fun here => Writer.poll_good behaves _ here
  failed := fun here _ _ => Writer.poll_good behaves _ here
  other := fun here => Writer.poll_good behaves _ here

namespace Scripted.Session

theorem shares_now (time : Nat) :
    Shares fun (writer : Writer Sink) (_ : Option Operation) (_ : List Operation) (_ : Bytes) => writer.sink.now = time :=
  shares_good (Sink.behaves_now time)

theorem now_background {session next : Session} (stepped : session.background = some next) : next.now = session.now := by
  unfold background at stepped
  split at stepped
  · cases stepped
  · cases stepped
    exact @Dialed.Keeps.pollDeferred _ _ _ _ session.dialed [] (shares_now session.now) rfl session.now

theorem now_lt_alarm {session : Session} {due : Nat} (quiet : session.background = none)
    (set : Timeline.alarm session = some due) : session.now < due := by
  have unfinished : session.dialed.deferred ≠ .finished := by
    intro finished
    rw [show Timeline.alarm session = none from if_pos finished] at set
    cases set
  replace set : session.rest.bind Stall.alarm = some due := (if_neg unfinished).symm.trans set
  have resting : session.isResting := by
    unfold background at quiet
    split at quiet
    · rename_i cause
      exact cause.resolve_left unfinished
    · cases quiet
  unfold isResting at resting
  cases waits : session.rest with
  | none =>
      rw [waits] at set
      cases set
  | some reason =>
      rw [waits] at set resting
      cases reason with
      | clock time =>
          cases set
          simpa [Stall.isOver] using resting
      | yielded | peer | turn => cases set

instance : InstantStream Session where
  now_setClock _ _ := rfl
  now_background _ _ stepped := now_background stepped
  now_lt_alarm _ _ quiet set := now_lt_alarm quiet set
  now_write session bytes :=
    @Dialed.Keeps.pollWrite _ _ _ False _ session.dialed [] (shares_now session.now).carries rfl bytes False.elim
  now_flush session :=
    @Dialed.Keeps.pollFlush _ _ _ False _ session.dialed [] (shares_now session.now).carries rfl False.elim
  now_shutdown session :=
    @Dialed.Keeps.pollShutdown _ _ _ False _ session.dialed [] (shares_now session.now).carries rfl False.elim
  now_read _ _ := rfl
  read_le _ _ _ done := Reader.length_poll_le done

end Scripted.Session

end Session
end SealedTunnel
