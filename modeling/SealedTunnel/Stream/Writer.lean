import SealedTunnel.Stream.Drain
import SealedTunnel.Stream.Lock
import SealedTunnel.Stream.Sealer

/-!
The sending half of a stream. Its operations may run side by side: each waits for its turn at the
sink, takes the data queued so far together with its own, seals it and sends it piece by piece.
-/
namespace SealedTunnel

structure Writer (σ : Type) where
  /-- Data to be sent with whatever is sent next. -/
  queued : Bytes
  lock : Lock
  sealer : Sealer
  sink : σ

inductive Request
  | write (data : Bytes)
  | flush
  | shutdown
  deriving DecidableEq, Repr

def Request.data : Request → Bytes
  | write data => data
  | _ => []

inductive Stage
  | unstarted
  | waiting (ticket : Ticket)
  /-- Holds the lock; these bytes are still to be accepted by the sink. -/
  | sending (ticket : Ticket) (rest : Bytes)
  /-- Holds the lock; all bytes are accepted, and the sink is to be flushed or shut down. -/
  | finishing (ticket : Ticket)
  | finished
  deriving DecidableEq, Repr

structure Operation where
  request : Request
  stage : Stage
  deriving DecidableEq, Repr

def Operation.ofRequest (request : Request) : Operation := ⟨request, .unstarted⟩

structure Step (σ : Type) where
  result : Poll (Except IoError Unit)
  writer : Writer σ
  stage : Stage

theorem Fault.ioKind_ne_interrupted (fault : Fault) : fault.ioKind ≠ .interrupted := by
  cases fault <;> simp [Fault.ioKind]

namespace Writer

variable {σ : Type}

def fresh (key : MasterKey) (salts : SaltSource) (sink : σ) : Writer σ :=
  ⟨[], .free, .fresh key salts, sink⟩

def enqueue (writer : Writer σ) (data : Bytes) : Writer σ := { writer with queued := writer.queued ++ data }

/-- The end of an operation, which gives the lock to the next one. -/
def conclude (writer : Writer σ) (result : Except IoError Unit) : Step σ :=
  ⟨.ready result, { writer with lock := writer.lock.release }, .finished⟩

variable [ByteSink σ]

def finish (writer : Writer σ) (request : Request) (ticket : Ticket) : Step σ :=
  match request with
  | .write _ => writer.conclude (.ok ())
  | .flush =>
    match ByteSink.flush writer.sink with
    | (.ready result, sink) => { writer with sink }.conclude result
    | (.stalled reason, sink) => ⟨.stalled reason, { writer with sink }, .finishing ticket⟩
  | .shutdown =>
    match ByteSink.shutdown writer.sink with
    | (.ready result, sink) => { writer with sink }.conclude result
    | (.stalled reason, sink) => ⟨.stalled reason, { writer with sink }, .finishing ticket⟩

/-- Sends what is left of the sealed bytes. After an error they are given up. -/
def send (writer : Writer σ) (request : Request) (ticket : Ticket) (rest : Bytes) : Step σ :=
  match drain .stuck writer.sink rest with
  | (.stalled reason, rest, sink) => ⟨.stalled reason, { writer with sink }, .sending ticket rest⟩
  | (.ready (.error error), _, sink) => { writer with sink }.conclude (.error error)
  | (.ready (.ok _), _, sink) => { writer with sink }.finish request ticket

/-- The turn of an operation: it takes the queued data, and seals it with its own. -/
def start (writer : Writer σ) (request : Request) (ticket : Ticket) : Step σ :=
  let data := writer.queued ++ request.data
  let taken := { writer with queued := [] }
  if data.isEmpty then taken.finish request ticket
  else
    match taken.sealer.sealData data with
    | (.error fault, sealer) => { taken with sealer }.conclude (.error (.ofFault fault))
    | (.ok sealed, sealer) => { taken with sealer }.send request ticket sealed

def poll (writer : Writer σ) (operation : Operation) : Step σ :=
  match operation.stage with
  | .unstarted =>
    let (ticket, lock) := writer.lock.request
    let asked := { writer with lock }
    if lock.holder = some ticket then asked.start operation.request ticket
    else ⟨.stalled (.turn ticket), asked, .waiting ticket⟩
  | .waiting ticket =>
    if writer.lock.holder = some ticket then writer.start operation.request ticket
    else ⟨.stalled (.turn ticket), writer, .waiting ticket⟩
  | .sending ticket rest => writer.send operation.request ticket rest
  | .finishing ticket => writer.finish operation.request ticket
  | .finished => ⟨.stalled .peer, writer, .finished⟩

theorem poll_write_error {writer : Writer σ} {operation : Operation} {data : Bytes} {error : IoError}
    (writes : operation.request = .write data)
    (failed : (writer.poll operation).result = .ready (.error error)) : error.kind ≠ .interrupted := by
  have sent : ∀ (other : Writer σ) (ticket : Ticket) (rest : Bytes),
      (other.send (.write data) ticket rest).result = .ready (.error error) → error.kind ≠ .interrupted := by
    intro other ticket rest failed
    unfold send at failed
    split at failed
    · simp at failed
    · rename_i drained
      simp only [conclude, Poll.ready.injEq, Except.error.injEq] at failed
      rw [← failed]
      exact drain_error (by decide) drained
    · simp [finish, conclude] at failed
  have started : ∀ (other : Writer σ) (ticket : Ticket),
      (other.start (.write data) ticket).result = .ready (.error error) → error.kind ≠ .interrupted := by
    intro other ticket failed
    unfold start at failed
    dsimp only at failed
    split at failed
    · simp [finish, conclude] at failed
    · split at failed
      · simp only [conclude, Poll.ready.injEq, Except.error.injEq] at failed
        rw [← failed]
        exact Fault.ioKind_ne_interrupted _
      · exact sent _ _ _ failed
  unfold poll at failed
  rw [writes] at failed
  dsimp only at failed
  split at failed
  · split at failed
    · exact started _ _ failed
    · simp at failed
  · split at failed
    · exact started _ _ failed
    · simp at failed
  · exact sent _ _ _ failed
  · simp [finish, conclude] at failed
  · simp at failed

omit [ByteSink σ] in
/-- Drops an operation: it gives up the lock or its place, and what it sealed stays as far as it was sent. -/
def cancel (writer : Writer σ) (operation : Operation) : Writer σ :=
  match operation.stage with
  | .waiting ticket => { writer with lock := writer.lock.leave ticket }
  | .sending ticket _ => { writer with lock := writer.lock.leave ticket }
  | .finishing ticket => { writer with lock := writer.lock.leave ticket }
  | _ => writer

end Writer
end SealedTunnel
