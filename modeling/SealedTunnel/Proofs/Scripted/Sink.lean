import SealedTunnel.Proofs.Stream.Behaviour
import SealedTunnel.Scripted.Sink

/-! Scripts whose sink takes everything at once, and those whose sink may delay but does not fail. -/
namespace SealedTunnel.Scripted

def WriteOutcome.isSteady : WriteOutcome → Bool
  | accept count => count ≠ 0
  | yield => true
  | wait _ => true
  | fail _ => false

def CallOutcome.isSteady : CallOutcome → Bool
  | fail _ => false
  | _ => true

namespace Sink

def IsOpen (sink : Sink) : Prop :=
  sink.writes = [] ∧ sink.flushes = [] ∧ sink.shutdowns = [] ∧ sink.room = none

theorem behaves_isOpen : Behaves (· = .finished) IsOpen where
  write := by
    rintro sink next bytes answer ⟨noWrites, noFlushes, noShutdowns, noLimit⟩ some done
    have taken : { sink with writes := [] }.take bytes bytes.length = (answer, next) := by
      rw [← done]
      change _ = writeNext sink bytes sink.writes
      rw [noWrites]
      rfl
    rw [take] at taken
    dsimp only at taken
    rw [noLimit, Nat.min_self] at taken
    cases taken
    refine ⟨⟨rfl, noFlushes, noShutdowns, rfl⟩, ?_⟩
    cases bytes with
    | nil => exact absurd rfl some
    | cons byte bytes => rfl
  flush := by
    rintro sink next answer ⟨noWrites, noFlushes, noShutdowns, noLimit⟩ done
    have flushed : sink.flush = (answer, next) := done
    rw [flush, noFlushes] at flushed
    cases flushed
    exact ⟨⟨noWrites, rfl, noShutdowns, noLimit⟩, rfl⟩
  shutdown := by
    rintro sink next answer ⟨noWrites, noFlushes, noShutdowns, noLimit⟩ done
    have shut : sink.shutdown = (answer, next) := done
    rw [shutdown, noShutdowns] at shut
    cases shut
    exact ⟨⟨noWrites, noFlushes, rfl, noLimit⟩, rfl⟩

theorem alwaysReady {sink : Sink} (isOpen : sink.IsOpen) : AlwaysReady sink :=
  ⟨IsOpen, behaves_isOpen.weaken (fun _ finished => by rw [finished]; decide), isOpen⟩

structure IsSteady (sink : Sink) : Prop where
  writes : ∀ outcome ∈ sink.writes, outcome.isSteady
  flushes : ∀ outcome ∈ sink.flushes, outcome.isSteady
  shutdowns : ∀ outcome ∈ sink.shutdowns, outcome.isSteady

theorem take_written {sink next : Sink} {bytes : Bytes} {limit : Nat} {answer : Poll (Except IoError Nat)}
    (some : bytes ≠ []) (positive : limit ≠ 0) (taken : sink.take bytes limit = (answer, next)) :
    answer.written ≠ .failed ∧ next.writes = sink.writes ∧ next.flushes = sink.flushes ∧
      next.shutdowns = sink.shutdowns := by
  have length : bytes.length ≠ 0 := fun none => some (List.length_eq_zero_iff.mp none)
  have counted : ∀ count : Nat, count ≠ 0 → (Poll.ready (Except.ok count : Except IoError Nat)).written ≠ .failed := by
    intro count positive
    cases count with
    | zero => exact absurd rfl positive
    | succ count => exact fun failed => by cases failed
  unfold take at taken
  dsimp only at taken
  split at taken
  · cases taken
    exact ⟨counted _ (by omega), rfl, rfl, rfl⟩
  · cases taken
    refine ⟨?_, rfl, rfl, rfl⟩
    exact fun failed => by cases failed
  · rename_i room limited _
    cases taken
    have some : room ≠ 0 := by
      rintro rfl
      exact limited rfl
    exact ⟨counted _ (by omega), rfl, rfl, rfl⟩

theorem writeNext_isSteady {sink next : Sink} {bytes : Bytes} {outcomes : List WriteOutcome}
    {answer : Poll (Except IoError Nat)} (steady : sink.IsSteady) (some : bytes ≠ [])
    (rest : ∀ outcome ∈ outcomes, outcome.isSteady) (done : writeNext sink bytes outcomes = (answer, next)) :
    next.IsSteady ∧ answer.written ≠ .failed := by
  fun_induction writeNext sink bytes outcomes with
  | case1 sink =>
      have length : bytes.length ≠ 0 := fun none => some (List.length_eq_zero_iff.mp none)
      obtain ⟨written, writes, flushes, shutdowns⟩ := take_written some length done
      refine ⟨⟨?_, flushes ▸ steady.flushes, shutdowns ▸ steady.shutdowns⟩, written⟩
      rw [writes]
      exact List.forall_mem_nil _
  | case2 sink count outcomes =>
      obtain ⟨positive, later⟩ := List.forall_mem_cons.mp rest
      obtain ⟨written, writes, flushes, shutdowns⟩ := take_written some (of_decide_eq_true positive) done
      exact ⟨⟨writes ▸ later, flushes ▸ steady.flushes, shutdowns ▸ steady.shutdowns⟩, written⟩
  | case3 sink outcomes =>
      cases done
      refine ⟨⟨(List.forall_mem_cons.mp rest).2, steady.flushes, steady.shutdowns⟩, ?_⟩
      exact fun failed => by cases failed
  | case4 sink error outcomes => cases (List.forall_mem_cons.mp rest).1
  | case5 sink millis outcomes due passed ih =>
      exact ih ⟨steady.writes, steady.flushes, steady.shutdowns⟩ (List.forall_mem_cons.mp rest).2 done
  | case6 sink millis outcomes due early =>
      cases done
      refine ⟨⟨rest, steady.flushes, steady.shutdowns⟩, ?_⟩
      exact fun failed => by cases failed

theorem steady_isSteady : Steady IsSteady where
  write := fun steady some done => writeNext_isSteady steady some steady.writes done
  flush := by
    rintro sink next answer ⟨writes, flushes, shutdowns⟩ done
    have flushed : sink.flush = (answer, next) := done
    unfold flush at flushed
    cases script : sink.flushes with
    | nil =>
        rw [script] at flushes flushed
        cases flushed
        exact ⟨⟨writes, script ▸ flushes, shutdowns⟩, fun failed => by cases failed⟩
    | cons outcome outcomes =>
        rw [script] at flushes flushed
        obtain ⟨first, later⟩ := List.forall_mem_cons.mp flushes
        cases outcome with
        | fail error => cases first
        | ok | yield =>
            cases flushed
            exact ⟨⟨writes, later, shutdowns⟩, fun failed => by cases failed⟩
  shutdown := by
    rintro sink next answer ⟨writes, flushes, shutdowns⟩ done
    have shut : sink.shutdown = (answer, next) := done
    unfold shutdown at shut
    cases script : sink.shutdowns with
    | nil =>
        rw [script] at shutdowns shut
        cases shut
        exact ⟨⟨writes, flushes, script ▸ shutdowns⟩, fun failed => by cases failed⟩
    | cons outcome outcomes =>
        rw [script] at shutdowns shut
        obtain ⟨first, later⟩ := List.forall_mem_cons.mp shutdowns
        cases outcome with
        | fail error => cases first
        | ok | yield =>
            cases shut
            exact ⟨⟨writes, flushes, later⟩, fun failed => by cases failed⟩

end Sink
end SealedTunnel.Scripted
