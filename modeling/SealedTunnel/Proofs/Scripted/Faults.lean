import SealedTunnel.Proofs.Stream.Telling
import SealedTunnel.Scripted.Line
import SealedTunnel.Scripted.Mailbox

/-! The errors that a script still holds, and what calls take from them. -/
namespace SealedTunnel.Scripted

def WriteOutcome.fault? : WriteOutcome → Option IoError
  | fail error => some error
  | _ => none

def SourceItem.fault? : SourceItem → Option IoError
  | fail error => some error
  | _ => none

def Arrival.fault? (arrival : Arrival) : Option TunnelError :=
  match arrival.content with
  | .failed error => some error
  | _ => none

def Attempt.fault? (attempt : Attempt) : Option TunnelError :=
  match attempt.ending with
  | .failed error => some error
  | _ => none

namespace Sink

def faults (sink : Sink) : List IoError := sink.writes.filterMap WriteOutcome.fault?

theorem faults_take (sink : Sink) (bytes : Bytes) (limit : Nat) : (sink.take bytes limit).2.faults = sink.faults := by
  unfold take
  dsimp only
  split <;> rfl

theorem tells_writeNext (sink : Sink) (bytes : Bytes) (outcomes : List WriteOutcome) :
    Tells (fun _ => False) (writeNext sink bytes outcomes).1.failure? (outcomes.filterMap WriteOutcome.fault?)
      (writeNext sink bytes outcomes).2.faults := by
  fun_induction writeNext sink bytes outcomes with
  | case1 sink => exact tells_of_eq (faults_take { sink with writes := [] } bytes bytes.length)
  | case2 sink count rest => exact tells_of_eq (faults_take { sink with writes := rest } bytes count)
  | case3 => exact tells_same _ _ _
  | case4 sink error rest => exact tells_first _ error (rest.filterMap WriteOutcome.fault?)
  | case5 _ _ _ _ _ ih => exact ih
  | case6 => exact tells_same _ _ _

theorem faults_flush (sink : Sink) : sink.flush.2.faults = sink.faults := by
  unfold flush
  split <;> rfl

theorem faults_shutdown (sink : Sink) : sink.shutdown.2.faults = sink.faults := by
  unfold shutdown
  split <;> rfl

theorem faults_close (request : Request) (sink : Sink) : (request.close sink).2.faults = sink.faults := by
  cases request with
  | write => rfl
  | flush => exact sink.faults_flush
  | shutdown => exact sink.faults_shutdown

theorem telling : Telling faults where
  write sink bytes := (sink.tells_writeNext bytes sink.writes).weaken fun _ => False.elim
  flush sink := tells_of_eq sink.faults_flush
  shutdown sink := tells_of_eq sink.faults_shutdown

end Sink

namespace Source

def faults (source : Source) : List IoError := source.items.filterMap SourceItem.fault?

theorem tells_readItems (source : Source) (room : Nat) (items : List SourceItem) :
    Tells (fun _ => False) (readItems source room items).1.failure? (items.filterMap SourceItem.fault?)
      (readItems source room items).2.faults := by
  fun_induction readItems source room items with
  | case3 _ _ ih | case8 _ _ _ _ _ ih => exact ih
  | case7 source error rest => exact tells_first _ error (rest.filterMap SourceItem.fault?)
  | _ => exact tells_same _ _ _

theorem telling : TellingAll faults := fun source room => source.tells_readItems room source.items

end Source

namespace Mailbox

def sendFaults (mailbox : Mailbox) : List TunnelError := mailbox.sends.filterMap Attempt.fault?

def receiveFaults (mailbox : Mailbox) : List TunnelError := mailbox.incoming.filterMap Arrival.fault?

theorem shows_send (mailbox : Mailbox) (packet : Bytes) :
    Shows sendFaults receiveFaults (fun _ => False) (mailbox.send packet).1.failure? mailbox (mailbox.send packet).2 := by
  unfold send Shows sendFaults
  split
  · exact ⟨tells_same _ _ _, rfl⟩
  · rename_i wait ending rest laid
    dsimp only
    split
    · exact ⟨tells_same _ _ _, rfl⟩
    · rw [laid]
      cases ending with
      | done | hanging => exact ⟨tells_same _ _ _, rfl⟩
      | failed error => exact ⟨tells_first _ error (rest.filterMap Attempt.fault?), rfl⟩

theorem shows_receiveNext (mailbox : Mailbox) (room : Nat) (arrivals : List Arrival) :
    Tells (fun _ => False) (receiveNext mailbox room arrivals).1.failure? (arrivals.filterMap Arrival.fault?)
        (receiveNext mailbox room arrivals).2.receiveFaults ∧
      (receiveNext mailbox room arrivals).2.sendFaults = mailbox.sendFaults := by
  fun_induction receiveNext mailbox room arrivals with
  | case4 _ _ rest _ _ _ error => exact ⟨tells_first _ error (rest.filterMap Arrival.fault?), rfl⟩
  | case5 _ _ _ _ _ _ ih => exact ih
  | _ => exact ⟨tells_same _ _ _, rfl⟩

end Mailbox
end SealedTunnel.Scripted
