import SealedTunnel.Proofs.Dialing.Keeping
import SealedTunnel.Proofs.Stream.Telling

/-!
What a dialed stream does behind the back of its caller raises none of the errors of writing: once a write has taken the
address along, the flush in the background has nothing to send, and so it does not write.
-/
namespace SealedTunnel

section Bare

variable {σ β : Type} [ByteSink σ] {kept : σ → β}

structure Step.Bare (kept : σ → β) (before : β) (step : Step σ) : Prop where
  kept : kept step.writer.sink = before
  rest : step.stage.rest = []

namespace Writer

variable (closes : ∀ (request : Request) (sink : σ), kept (request.close sink).2 = kept sink) (writer : Writer σ)
  (request : Request) (ticket : Ticket)

include closes

theorem finish_bare : (writer.finish request ticket).Bare kept (kept writer.sink) := by
  have same := closes request writer.sink
  rw [finish_eq]
  split <;> rename_i closed <;> rw [closed] at same <;> exact ⟨same, rfl⟩

theorem start_bare (none : writer.queued ++ request.data = []) :
    (writer.start request ticket).Bare kept (kept writer.sink) := by
  unfold start
  dsimp only
  rw [if_pos (List.isEmpty_iff.mpr none)]
  exact finish_bare closes { writer with queued := [] } request ticket

theorem send_bare : (writer.send request ticket []).Bare kept (kept writer.sink) := by
  have drained : drain .stuck writer.sink [] = (.ready (.ok ()), [], writer.sink) := by
    rw [drain]
    rfl
  unfold send
  rw [drained]
  exact finish_bare closes writer request ticket

theorem poll_bare (operation : Operation) (rest : operation.stage.rest = [])
    (none : writer.queued ++ operation.request.data = []) : (writer.poll operation).Bare kept (kept writer.sink) := by
  obtain ⟨request, stage⟩ := operation
  unfold poll
  cases stage with
  | unstarted =>
      dsimp only
      split
      · exact start_bare closes { writer with lock := writer.lock.request.2 } request _ none
      · exact ⟨rfl, rfl⟩
  | waiting ticket =>
      dsimp only
      split
      · exact start_bare closes writer request ticket none
      · exact ⟨rfl, rfl⟩
  | sending ticket bytes =>
      cases rest
      exact send_bare closes writer request ticket
  | finishing ticket => exact finish_bare closes writer request ticket
  | finished => exact ⟨rfl, rfl⟩

end Writer
end Bare

section Reader

variable {ρ σ : Type} [ByteSink σ] (stream : Duplex ρ σ)

namespace Duplex

theorem reader_pollInFlight : stream.pollInFlight.2.reader = stream.reader := by
  unfold pollInFlight
  cases stream.inFlight with
  | none => rfl
  | some operation => rfl

theorem reader_pollWrite (data : Bytes) : (stream.pollWrite data).2.reader = stream.reader := by
  have same := stream.reader_pollInFlight
  unfold pollWrite
  generalize stream.pollInFlight = before at same
  obtain ⟨(error | done) | reason, next⟩ := before
  · exact same
  · dsimp only
    split
    · exact same
    · split <;> exact same
  · exact same

theorem reader_pollFlush : stream.pollFlush.2.reader = stream.reader := by
  have same := stream.reader_pollInFlight
  unfold pollFlush
  generalize stream.pollInFlight = before at same
  obtain ⟨(error | done) | reason, next⟩ := before <;> exact same

theorem queued_pollWrite {data : Bytes} (idle : stream.inFlight = none) (free : stream.writer.lock.holder = none)
    (some : data ≠ []) : (stream.pollWrite data).2.writer.queued = [] := by
  have holds : stream.writer.lock.request.2.holder = Option.some stream.writer.lock.request.1 := by
    unfold Lock.request
    rw [free]
  have taken : (stream.writer.poll (.ofRequest (.write data))).writer.queued = [] := by
    have granted : stream.writer.poll (.ofRequest (.write data)) = _ := Writer.poll_granted rfl holds
    rw [granted]
    exact Writer.queued_start _ _ _
  have finished : stream.pollInFlight.1.outcome = .finished := by
    rw [pollInFlight_none idle]
    rfl
  rw [writer_pollWrite finished some, pollInFlight_none idle]
  exact taken

end Duplex
end Reader

namespace Dialed

variable {ρ σ : Type}

/-- Nothing stands in the way of a write that takes along all that is queued. -/
structure Primed (dialed : Dialed ρ σ) : Prop where
  queued : dialed.stream.writer.queued = [] ∨ dialed.stream.inFlight = none ∧ dialed.stream.writer.lock.holder = none
  bare : ∀ operation ∈ dialed.deferred.operations, operation.request.data = [] ∧ operation.stage.rest = []

theorem Spent.primed {dialed : Dialed ρ σ} (spent : dialed.Spent) : dialed.Primed := ⟨Or.inl spent.queued, spent.bare⟩

theorem primed_establish (dialer : Dialer) (header : Bytes) (source : ρ) (sink : σ) (now : Nat) :
    (dialer.establish header source sink now).Primed :=
  ⟨Or.inr ⟨rfl, rfl⟩, List.forall_mem_nil _⟩

variable [ByteSink σ] {dialed : Dialed ρ σ}

theorem Primed.pollWrite (primed : dialed.Primed) {data : Bytes} (some : data ≠ []) : (dialed.pollWrite data).2.Spent := by
  rcases primed.queued with none | ⟨idle, free⟩
  · have spent : dialed.Spent := ⟨none, primed.bare⟩
    exact spent.pollWrite data
  · exact ⟨dialed.stream.queued_pollWrite idle free some, primed.bare⟩

theorem Spent.pollDeferred_bare {β : Type} {kept : σ → β}
    (closes : ∀ (request : Request) (sink : σ), kept (request.close sink).2 = kept sink) (spent : dialed.Spent) (now : Nat) :
    (dialed.pollDeferred now).2.Spent ∧
      kept (dialed.pollDeferred now).2.stream.writer.sink = kept dialed.stream.writer.sink := by
  have carries : ∀ operation : Operation, operation.request.data = [] → operation.stage.rest = [] →
      (dialed.carryFlush operation).2.Spent ∧
        kept (dialed.carryFlush operation).2.stream.writer.sink = kept dialed.stream.writer.sink := by
    intro operation data rest
    have nothing : dialed.stream.writer.queued ++ operation.request.data = [] := by
      rw [spent.queued, data, List.nil_append]
    have bare := dialed.stream.writer.poll_bare closes operation rest nothing
    have still := Writer.queued_poll operation spent.queued
    unfold Dialed.carryFlush
    dsimp only
    split
    · exact ⟨⟨still, List.forall_mem_singleton.mpr ⟨data, bare.rest⟩⟩, bare.kept⟩
    · exact ⟨⟨still, List.forall_mem_nil _⟩, bare.kept⟩
  cases next : dialed.deferred.turn? now with
  | none =>
      rw [pollDeferred_idle next]
      exact ⟨spent, rfl⟩
  | some operation =>
      rw [pollDeferred_turn next]
      rcases Deferred.turn?_cases next with ⟨due, -, -, rfl⟩ | flushes
      · exact carries _ rfl rfl
      · have bare := spent.bare
        rw [flushes] at bare
        obtain ⟨data, rest⟩ := bare operation List.mem_cons_self
        exact carries operation data rest

theorem reader_pollDeferred (dialed : Dialed ρ σ) (now : Nat) :
    (dialed.pollDeferred now).2.stream.reader = dialed.stream.reader := by
  cases next : dialed.deferred.turn? now with
  | none => rw [pollDeferred_idle next]
  | some operation => rw [pollDeferred_turn next, stream_carryFlush]

end Dialed
end SealedTunnel
