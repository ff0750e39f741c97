import SealedTunnel.Stream.Duplex
import SealedTunnel.Target

/-!
Dialed streams. The target's address is queued when the stream is set up, so that it leaves together
with the first data; if there is none for a while, a flush in the background sends it alone.
-/
namespace SealedTunnel

structure Dialer where
  key : MasterKey
  salts : SaltSource
  /-- How long the address waits for data, in milliseconds. -/
  wait : Nat

def Dialer.usualWait : Nat := 10

inductive Deferred
  | waiting (due : Nat)
  | flushing (operation : Operation)
  | finished
  deriving DecidableEq, Repr

structure Dialed (ρ σ : Type) where
  stream : Duplex ρ σ
  deferred : Deferred

namespace Dialer

def header (address : String) : Except Fault Bytes := do (← Target.parse address).encode

def establish {ρ σ : Type} (dialer : Dialer) (header : Bytes) (source : ρ) (sink : σ) (now : Nat) : Dialed ρ σ :=
  let writer := (Writer.fresh dialer.key dialer.salts sink).enqueue header
  ⟨Duplex.ofHalves (Reader.fresh dialer.key source) writer, .waiting (now + dialer.wait)⟩

end Dialer

namespace Deferred

/-- Calls off a flush that has not begun. -/
def cancel : Deferred → Deferred
  | waiting _ => finished
  | deferred => deferred

end Deferred

namespace Dialed

variable {ρ σ : Type}

def pollRead [ByteSource ρ] (dialed : Dialed ρ σ) (room : Nat) : Poll (Except IoError Bytes) × Dialed ρ σ :=
  let (result, stream) := dialed.stream.pollRead room
  (result, { dialed with stream })

/-- Gives the stream up: operations that are not finished are dropped, but a flush in the background
that has begun goes on. -/
def drop (dialed : Dialed ρ σ) : Dialed ρ σ :=
  let stream := dialed.stream
  let unfinished := [stream.inFlight, stream.pendingFlush, stream.pendingShutdown].filterMap id
  let writer := unfinished.foldl Writer.cancel stream.writer
  ⟨{ stream with writer, inFlight := none, pendingFlush := none, pendingShutdown := none }, dialed.deferred.cancel⟩

variable [ByteSink σ]

def pollWrite (dialed : Dialed ρ σ) (data : Bytes) : Poll (Except IoError Nat) × Dialed ρ σ :=
  let (result, stream) := dialed.stream.pollWrite data
  (result, { dialed with stream })

def pollFlush (dialed : Dialed ρ σ) : Poll (Except IoError Unit) × Dialed ρ σ :=
  let (result, stream) := dialed.stream.pollFlush
  (result, { dialed with stream })

def pollShutdown (dialed : Dialed ρ σ) : Poll (Except IoError Unit) × Dialed ρ σ :=
  let (result, stream) := dialed.stream.pollShutdown
  (result, ⟨stream, dialed.deferred.cancel⟩)

/-- Carries the flush in the background on; nobody learns of its error. -/
def carryFlush (dialed : Dialed ρ σ) (operation : Operation) : Option Stall × Dialed ρ σ :=
  let step := dialed.stream.writer.poll operation
  let stream := { dialed.stream with writer := step.writer }
  match step.result with
  | .stalled reason => (some reason, ⟨stream, .flushing { operation with stage := step.stage }⟩)
  | .ready _ => (none, ⟨stream, .finished⟩)

def pollDeferred (dialed : Dialed ρ σ) (now : Nat) : Option Stall × Dialed ρ σ :=
  match dialed.deferred with
  | .waiting due => if due ≤ now then dialed.carryFlush (.ofRequest .flush) else (some (.clock due), dialed)
  | .flushing operation => dialed.carryFlush operation
  | .finished => (none, dialed)

instance : ByteSink (Dialed ρ σ) where
  write := pollWrite
  flush := pollFlush
  shutdown := pollShutdown
  interruptions dialed := dialed.stream.interruptions
  write_le _ _ _ done := Duplex.pollWrite_le done
  interruptions_write _ _ _ failed kind := Duplex.interruptions_pollWrite failed kind

omit [ByteSink σ] in
instance [ByteSource ρ] : ByteSource (Dialed ρ σ) where
  read := pollRead
  supply dialed := dialed.stream.reader.supply
  supply_read _ _ _ done := Reader.supply_poll done

end Dialed
end SealedTunnel
