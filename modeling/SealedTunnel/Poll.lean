import SealedTunnel.Bytes
import SealedTunnel.Error

/-!
Operations that may have to wait: a step either finishes or says what it waits for. Sinks take bytes
as far as they please, sources yield them in pieces of any size.
-/
namespace SealedTunnel

/-- What has to happen before it is of use to try again. -/
inductive Stall
  /-- Nothing: it may be tried at once. -/
  | yielded
  /-- The time of the clock. -/
  | clock (due : Nat)
  /-- The other side has to act. -/
  | peer
  /-- A lock has to be handed over to the request of that number. -/
  | turn (ticket : Nat)
  deriving DecidableEq, Repr

inductive Poll (α : Type)
  | ready (value : α)
  | stalled (reason : Stall)
  deriving DecidableEq, Repr

def Poll.map {α β : Type} (f : α → β) : Poll α → Poll β
  | ready value => ready (f value)
  | stalled reason => stalled reason

/-- Somewhere bytes go. A write reports how many of them were taken, never more than there are, and
is interrupted only so often in a row. -/
class ByteSink (σ : Type) where
  write : σ → Bytes → Poll (Except IoError Nat) × σ
  flush : σ → Poll (Except IoError Unit) × σ
  shutdown : σ → Poll (Except IoError Unit) × σ
  interruptions : σ → Nat
  write_le : ∀ sink bytes count, (write sink bytes).1 = .ready (.ok count) → count ≤ bytes.length
  interruptions_write : ∀ sink bytes error, (write sink bytes).1 = .ready (.error error) →
    error.kind = .interrupted → interruptions (write sink bytes).2 < interruptions sink

/-- Somewhere bytes come from; nothing read is the end. What can be read before the source stalls,
fails or ends is finite. -/
class ByteSource (ρ : Type) where
  read : ρ → (room : Nat) → Poll (Except IoError Bytes) × ρ
  supply : ρ → Nat
  supply_read : ∀ source room bytes, (read source room).1 = .ready (.ok bytes) →
    supply (read source room).2 + bytes.length ≤ supply source

end SealedTunnel
