import SealedTunnel.Stream.Reader
import SealedTunnel.Stream.Writer

/-!
Both halves of a stream as one connection. A write is accepted once it has started; it is finished
before the next write, flush or shutdown, and that call reports its error.
-/
namespace SealedTunnel

structure Duplex (ρ σ : Type) where
  reader : Reader ρ
  writer : Writer σ
  /-- An accepted write that is not finished. -/
  inFlight : Option Operation
  pendingFlush : Option Operation
  pendingShutdown : Option Operation

namespace Duplex

variable {ρ σ : Type}

def ofHalves (reader : Reader ρ) (writer : Writer σ) : Duplex ρ σ := ⟨reader, writer, none, none, none⟩

def pollRead [ByteSource ρ] (stream : Duplex ρ σ) (room : Nat) : Poll (Except IoError Bytes) × Duplex ρ σ :=
  let (result, reader) := stream.reader.poll room
  (result, { stream with reader })

def enqueue (stream : Duplex ρ σ) (data : Bytes) : Duplex ρ σ :=
  { stream with writer := stream.writer.enqueue data }

variable [ByteSink σ]

def carry (writer : Writer σ) (operation : Operation) :
    Poll (Except IoError Unit) × Writer σ × Option Operation :=
  let step := writer.poll operation
  match step.result with
  | .stalled reason => (.stalled reason, step.writer, some { operation with stage := step.stage })
  | .ready result => (.ready result, step.writer, none)

def pollInFlight (stream : Duplex ρ σ) : Poll (Except IoError Unit) × Duplex ρ σ :=
  match stream.inFlight with
  | none => (.ready (.ok ()), stream)
  | some operation =>
    let (result, writer, inFlight) := carry stream.writer operation
    (result, { stream with writer, inFlight })

/-- Accepts all of the data or none of it. -/
def pollWrite (stream : Duplex ρ σ) (data : Bytes) : Poll (Except IoError Nat) × Duplex ρ σ :=
  match stream.pollInFlight with
  | (.stalled reason, stream) => (.stalled reason, stream)
  | (.ready (.error error), stream) => (.ready (.error error), stream)
  | (.ready (.ok _), stream) =>
    if data.isEmpty then (.ready (.ok 0), stream)
    else
      let (result, writer, inFlight) := carry stream.writer (.ofRequest (.write data))
      match result with
      | .ready (.error error) => (.ready (.error error), { stream with writer })
      | .ready (.ok _) => (.ready (.ok data.length), { stream with writer })
      | .stalled _ => (.ready (.ok data.length), { stream with writer, inFlight })

def pollFlush (stream : Duplex ρ σ) : Poll (Except IoError Unit) × Duplex ρ σ :=
  match stream.pollInFlight with
  | (.stalled reason, stream) => (.stalled reason, stream)
  | (.ready (.error error), stream) => (.ready (.error error), stream)
  | (.ready (.ok _), stream) =>
    let (result, writer, pendingFlush) :=
      carry stream.writer (stream.pendingFlush.getD (.ofRequest .flush))
    (result, { stream with writer, pendingFlush })

def pollShutdown (stream : Duplex ρ σ) : Poll (Except IoError Unit) × Duplex ρ σ :=
  match stream.pollInFlight with
  | (.stalled reason, stream) => (.stalled reason, stream)
  | (.ready (.error error), stream) => (.ready (.error error), stream)
  | (.ready (.ok _), stream) =>
    let (result, writer, pendingShutdown) :=
      carry stream.writer (stream.pendingShutdown.getD (.ofRequest .shutdown))
    (result, { stream with writer, pendingShutdown })

/-- A stream is interrupted only by the error of the write it had accepted before. -/
def interruptions (stream : Duplex ρ σ) : Nat := if stream.inFlight.isSome then 1 else 0

theorem pollWrite_le {stream : Duplex ρ σ} {data : Bytes} {count : Nat}
    (done : (stream.pollWrite data).1 = .ready (.ok count)) : count ≤ data.length := by
  unfold pollWrite at done
  split at done
  · simp at done
  · simp at done
  · split at done
    · simp only [Poll.ready.injEq, Except.ok.injEq] at done
      omega
    · dsimp only at done
      split at done
      · simp at done
      · simp only [Poll.ready.injEq, Except.ok.injEq] at done
        omega
      · simp only [Poll.ready.injEq, Except.ok.injEq] at done
        omega

theorem carry_write_error {writer : Writer σ} {data : Bytes} {error : IoError}
    (failed : (carry writer (.ofRequest (.write data))).1 = .ready (.error error)) :
    error.kind ≠ .interrupted := by
  unfold carry at failed
  dsimp only at failed
  split at failed
  · simp at failed
  · rename_i result
    simp only [Poll.ready.injEq] at failed
    subst failed
    exact Writer.poll_write_error rfl result

theorem pollInFlight_error {stream next : Duplex ρ σ} {error : IoError}
    (failed : stream.pollInFlight = (.ready (.error error), next)) :
    next.inFlight = none ∧ stream.inFlight.isSome := by
  unfold pollInFlight at failed
  split at failed
  · simp at failed
  · rename_i operation some
    unfold carry at failed
    dsimp only at failed
    split at failed
    · simp at failed
    · simp only [Prod.mk.injEq] at failed
      rw [← failed.2, some]
      exact ⟨rfl, rfl⟩

theorem interruptions_pollWrite {stream : Duplex ρ σ} {data : Bytes} {error : IoError}
    (failed : (stream.pollWrite data).1 = .ready (.error error)) (kind : error.kind = .interrupted) :
    (stream.pollWrite data).2.interruptions < stream.interruptions := by
  unfold pollWrite at failed ⊢
  split at failed
  · simp at failed
  · rename_i old next inFlight
    have reported := pollInFlight_error inFlight
    simp [interruptions, reported.1, reported.2]
  · split at failed
    · simp at failed
    · dsimp only at failed
      split at failed
      · rename_i carried
        simp only [Poll.ready.injEq, Except.error.injEq] at failed
        subst failed
        exact absurd kind (carry_write_error carried)
      · simp at failed
      · simp at failed

instance : ByteSink (Duplex ρ σ) where
  write := pollWrite
  flush := pollFlush
  shutdown := pollShutdown
  interruptions := interruptions
  write_le _ _ _ done := pollWrite_le done
  interruptions_write _ _ _ failed kind := interruptions_pollWrite failed kind

omit [ByteSink σ] in
instance [ByteSource ρ] : ByteSource (Duplex ρ σ) where
  read := pollRead
  supply stream := stream.reader.supply
  supply_read _ _ _ done := Reader.supply_poll done

end Duplex
end SealedTunnel
