import SealedTunnel.Scripted.Sink
import SealedTunnel.Scripted.Source
import SealedTunnel.Stream.Reader

namespace SealedTunnel.Scripted

inductive Reply
  | pending
  | done
  | count (bytes : Nat)
  | bytes (read : Bytes)
  /-- All that a series of reads gave, and its end. -/
  | series (pieces : List Bytes) (ending : Reader.Ending)
  | failed (error : IoError)
  | dropped
  /-- The addresses of both ends, as far as they are known. -/
  | ends (near far : Option String)
  /-- Not finished in the time allowed. -/
  | late
  /-- The step names something that is not there. -/
  | unknown
  deriving DecidableEq, Repr

def Reply.ofPoll {α : Type} (answer : α → Reply) : Poll (Except IoError α) → Reply
  | .stalled _ => .pending
  | .ready (.ok value) => answer value
  | .ready (.error error) => .failed error

inductive SinkChange
  | room (count : Nat)
  | unlimited
  | extend (writes : List WriteOutcome) (flushes shutdowns : List CallOutcome)
  deriving DecidableEq, Repr

/-- Whether there may now be room for a write that waits. -/
def SinkChange.wakes : SinkChange → Bool
  | extend .. => false
  | _ => true

def SinkChange.apply (sink : Sink) : SinkChange → Sink
  | room count => sink.addRoom count
  | unlimited => sink.unlimited
  | extend writes flushes shutdowns => sink.extend writes flushes shutdowns

structure Record where
  reply : Reply
  /-- What the sink took during the step. -/
  sent : Bytes
  flushed : Nat
  isShut : Bool
  deriving DecidableEq, Repr

def records {State StepType : Type} (sinkOf : State → Sink) (run : State → StepType → Reply × State) :
    State → List StepType → List Record × State
  | state, [] => ([], state)
  | state, step :: rest =>
    let (reply, after) := run state step
    let sink := sinkOf after
    let sent := sink.wire.drop (sinkOf state).wire.length
    let (others, last) := records sinkOf run after rest
    (⟨reply, sent, sink.flushed, sink.isShut⟩ :: others, last)

def readBackSize : Nat := 64 * 1024

def readBack (key : MasterKey) (wire : Bytes) : List Bytes × Reader.Ending :=
  let (pieces, ending, _) := (Reader.fresh key (Source.ofBytes wire)).readAll readBackSize
  (pieces, ending)

end SealedTunnel.Scripted
