import SealedTunnel.Stream.Writer

/-!
Copying a source into a writer until the source ends. While it waits for the source, it holds no lock.
-/
namespace SealedTunnel

structure Copy (ρ : Type) where
  source : ρ
  /-- The write of a piece, and the length of that piece. -/
  current : Option (Operation × Nat)
  /-- Bytes written so far. -/
  total : Nat

namespace Copy

variable {ρ σ : Type} [ByteSource ρ] [ByteSink σ]

def ofSource (source : ρ) : Copy ρ := ⟨source, none, 0⟩

def pull (writer : Writer σ) (source : ρ) (total : Nat) :
    Poll (Except IoError Nat) × Writer σ × Copy ρ :=
  match _read : ByteSource.read source Wire.longestPayload with
  | (.stalled reason, source) => (.stalled reason, writer, ⟨source, none, total⟩)
  | (.ready (.error error), source) => (.ready (.error error), writer, ⟨source, none, total⟩)
  | (.ready (.ok []), source) => (.ready (.ok total), writer, ⟨source, none, total⟩)
  | (.ready (.ok (byte :: rest)), source) =>
    let piece := byte :: rest
    let operation := Operation.ofRequest (.write piece)
    let step := writer.poll operation
    match step.result with
    | .stalled reason =>
      (.stalled reason, step.writer, ⟨source, some ({ operation with stage := step.stage }, piece.length), total⟩)
    | .ready (.error error) => (.ready (.error error), step.writer, ⟨source, none, total⟩)
    | .ready (.ok _) => pull step.writer source (total + piece.length)
termination_by ByteSource.supply source
decreasing_by
  have less := ByteSource.supply_read _ _ (byte :: rest) (congrArg Prod.fst _read)
  rw [_read] at less
  simp only [List.length_cons] at less
  omega

def poll (writer : Writer σ) (copy : Copy ρ) : Poll (Except IoError Nat) × Writer σ × Copy ρ :=
  match copy.current with
  | none => pull writer copy.source copy.total
  | some (operation, length) =>
    let step := writer.poll operation
    match step.result with
    | .stalled reason =>
      (.stalled reason, step.writer, { copy with current := some ({ operation with stage := step.stage }, length) })
    | .ready (.error error) => (.ready (.error error), step.writer, { copy with current := none })
    | .ready (.ok _) => pull step.writer copy.source (copy.total + length)

omit [ByteSource ρ] [ByteSink σ] in
def cancel (writer : Writer σ) (copy : Copy ρ) : Writer σ :=
  match copy.current with
  | none => writer
  | some (operation, _) => writer.cancel operation

end Copy
end SealedTunnel
