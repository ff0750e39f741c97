import SealedTunnel.Proofs.Stream.Behaviour

/-!
Who takes the queued data: an operation that begins with its work leaves none, so that one that begins
after it finds nothing. An operation with nothing to seal and nothing to send adds nothing to the wire.
-/
namespace SealedTunnel

section Queue

variable {σ : Type} [ByteSink σ] (writer : Writer σ) (request : Request) (ticket : Ticket)

namespace Writer

theorem queued_finish : (writer.finish request ticket).writer.queued = writer.queued := by
  rw [finish_eq]
  split <;> rfl

theorem sealer_finish : (writer.finish request ticket).writer.sealer = writer.sealer := by
  rw [finish_eq]
  split <;> rfl

theorem queued_send (rest : Bytes) : (writer.send request ticket rest).writer.queued = writer.queued := by
  unfold send
  split
  · rfl
  · rfl
  · exact queued_finish _ request ticket

theorem sealer_send (rest : Bytes) : (writer.send request ticket rest).writer.sealer = writer.sealer := by
  unfold send
  split
  · rfl
  · rfl
  · exact sealer_finish _ request ticket

theorem queued_start : (writer.start request ticket).writer.queued = [] := by
  unfold start
  dsimp only
  split
  · exact queued_finish _ request ticket
  · split
    · rfl
    · exact queued_send _ request ticket _

theorem queued_turn (stage : Stage) :
    (writer.turn request ticket stage).writer.queued = if stage.isActive then writer.queued else [] := by
  cases stage with
  | unstarted | waiting | finished => exact writer.queued_start request ticket
  | sending _ rest => exact writer.queued_send request ticket rest
  | finishing => exact writer.queued_finish request ticket

end Writer

/-- One that has come to its end has taken what was queued when it began, and the others have not begun. -/
theorem Crew.ended {writer : Writer σ} {operation : Operation} {others : List Operation}
    (crew : Crew writer.lock (operation :: others))
    (ended : (writer.poll operation).left operation.request = Option.none) :
    (writer.poll operation).writer.queued = (if operation.stage.isActive then writer.queued else []) ∧
      ∀ other ∈ others, other.stage.isActive = false := by
  cases crew.carried with
  | granted _ _ _ idle step =>
      rw [step]
      exact ⟨Writer.queued_turn _ operation.request _ operation.stage, idle⟩
  | waits _ _ _ _ step =>
      rw [step] at ended
      cases ended

omit [ByteSink σ] in
theorem Writer.cancel_keeps (writer : Writer σ) (operation : Operation) :
    (writer.cancel operation).queued = writer.queued ∧ (writer.cancel operation).sealer = writer.sealer ∧
      (writer.cancel operation).sink = writer.sink := by
  unfold cancel
  split <;> exact ⟨rfl, rfl, rfl⟩

/-- Operations that take turns, the one at work having taken what was queued. -/
structure Tidy (writer : Writer σ) (operations : List Operation) : Prop where
  crew : Crew writer.lock operations
  taken : ∀ operation ∈ operations, operation.stage.isActive → writer.queued = []

namespace Tidy

variable {writer : Writer σ} {operation : Operation} {operations others : List Operation}

omit [ByteSink σ] in
theorem perm (tidy : Tidy writer operations) (same : operations.Perm others) : Tidy writer others where
  crew := tidy.crew.perm same
  taken := fun operation mem => tidy.taken operation (same.mem_iff.mpr mem)

omit [ByteSink σ] in
theorem add (tidy : Tidy writer operations) (request : Request) : Tidy writer (.ofRequest request :: operations) where
  crew := tidy.crew.add request
  taken := by
    intro operation mem active
    rcases List.mem_cons.mp mem with rfl | mem
    · cases active
    · exact tidy.taken operation mem active

omit [ByteSink σ] in
theorem cancel (tidy : Tidy writer (operation :: others)) : Tidy (writer.cancel operation) others where
  crew := tidy.crew.cancel
  taken := by
    intro other mem active
    obtain ⟨queued, -⟩ := writer.cancel_keeps operation
    rw [queued]
    exact tidy.taken other (List.mem_cons_of_mem _ mem) active

omit [ByteSink σ] in
theorem untaken (tidy : Tidy writer operations) (mem : operation ∈ operations) :
    (if operation.stage.isActive then writer.queued else []) = [] := by
  split
  · rename_i active
    exact tidy.taken operation mem active
  · rfl

theorem poll (tidy : Tidy writer (operation :: others)) :
    Tidy (writer.poll operation).writer (((writer.poll operation).left operation.request).toList ++ others) := by
  have kept := tidy.crew.poll
  cases tidy.crew.carried with
  | @granted ticket asked asks _ holds idle step =>
      have queued : (writer.poll operation).writer.queued = [] := by
        rw [step, Writer.queued_turn]
        exact tidy.untaken List.mem_cons_self
      exact ⟨kept, fun _ _ _ => queued⟩
  | waits asks _ behind idle step =>
      rw [step] at kept ⊢
      refine ⟨kept, ?_⟩
      intro other mem active
      rcases List.mem_cons.mp mem with rfl | mem
      · cases active
      · exact tidy.taken other (List.mem_cons_of_mem _ mem) active

theorem ended (tidy : Tidy writer (operation :: others))
    (ended : (writer.poll operation).left operation.request = none) : (writer.poll operation).writer.queued = [] := by
  rw [(tidy.crew.ended ended).1]
  exact tidy.untaken List.mem_cons_self

omit [ByteSink σ] in
theorem cancels (tidy : Tidy writer (operations ++ others)) : Tidy (operations.foldl Writer.cancel writer) others := by
  induction operations generalizing writer with
  | nil => exact tidy
  | cons operation operations ih => exact ih tidy.cancel

omit [ByteSink σ] in
theorem alone (tidy : Tidy writer (operations ++ others)) (mem : operation ∈ operations)
    (active : operation.stage.isActive) : writer.queued = [] ∧ ∀ other ∈ others, other.stage.isActive = false := by
  refine ⟨tidy.taken operation (List.mem_append_left _ mem) active, ?_⟩
  obtain ⟨before, after, rfl⟩ := List.append_of_mem mem
  have first := tidy.perm (List.perm_middle.append_right others)
  obtain ⟨ticket, has⟩ := Stage.ticket?_of_isActive active
  have holds := (first.crew.active operation List.mem_cons_self active).trans has
  exact fun other mem => first.crew.others_idle has holds other (List.mem_append_right _ mem)

end Tidy

variable {writer : Writer σ}

omit [ByteSink σ] in
theorem Writer.cancels_keep (writer : Writer σ) (operations : List Operation) :
    (operations.foldl cancel writer).queued = writer.queued ∧
      (operations.foldl cancel writer).sealer = writer.sealer ∧
      (operations.foldl cancel writer).sink = writer.sink := by
  induction operations generalizing writer with
  | nil => exact ⟨rfl, rfl, rfl⟩
  | cons operation operations ih =>
      have once := writer.cancel_keeps operation
      obtain ⟨queued, sealer, sink⟩ := ih (writer.cancel operation)
      exact ⟨queued.trans once.1, sealer.trans once.2.1, sink.trans once.2.2⟩

theorem Writer.queued_poll (operation : Operation) (none : writer.queued = []) :
    (writer.poll operation).writer.queued = [] := by
  unfold Writer.poll
  split
  · dsimp only
    split
    · exact queued_start _ operation.request _
    · exact none
  · split
    · exact queued_start _ operation.request _
    · exact none
  · exact (queued_send _ operation.request _ _).trans none
  · exact (queued_finish _ operation.request _).trans none
  · exact none

end Queue

/-- No salt can be had, and none was. -/
def Sealer.Mute (sealer : Sealer) : Prop :=
  sealer.session = none ∧ ∀ attempt, ∃ fault, sealer.salts.draw attempt sealer.key.saltSize = .error fault

theorem Sealer.sealData_mute {sealer : Sealer} (mute : sealer.Mute) (data : Bytes) :
    ∃ fault, sealer.sealData data = (.error fault, { sealer with attempts := sealer.attempts + 1 }) := by
  obtain ⟨fault, undrawn⟩ := mute.2 sealer.attempts
  refine ⟨fault, ?_⟩
  simp only [sealData, begin, mute.1, undrawn]

section Quiet

variable {σ : Type}

structure Step.Quiet (wire : Bytes) (mute : Prop) (step : Step (Recorded σ)) : Prop where
  wire : step.writer.sink.wire = wire
  rest : step.stage.rest = []
  mute : mute → step.writer.sealer.Mute

variable [ByteSink σ]

theorem Recorded.wire_close {recorded next : Recorded σ} {request : Request} {answer : Poll (Except IoError Unit)}
    (closed : request.close recorded = (answer, next)) : next.wire = recorded.wire := by
  cases request with
  | write data =>
      cases closed
      rfl
  | flush => exact wire_flush closed
  | shutdown => exact wire_shutdown closed

variable (writer : Writer (Recorded σ)) (request : Request) (ticket : Ticket)

namespace Writer

theorem finish_quiet : (writer.finish request ticket).Quiet writer.sink.wire writer.sealer.Mute := by
  rw [finish_eq]
  split
  · rename_i closed
    exact ⟨Recorded.wire_close closed, rfl, id⟩
  · rename_i closed
    exact ⟨Recorded.wire_close closed, rfl, id⟩

theorem send_quiet : (writer.send request ticket []).Quiet writer.sink.wire writer.sealer.Mute := by
  have drained : drain .stuck writer.sink [] = (.ready (.ok ()), [], writer.sink) := by
    rw [drain]
    rfl
  unfold send
  rw [drained]
  exact writer.finish_quiet request ticket

theorem start_quiet (hushed : writer.queued ++ request.data = [] ∨ writer.sealer.Mute) :
    (writer.start request ticket).Quiet writer.sink.wire writer.sealer.Mute := by
  unfold start
  dsimp only
  split
  · exact finish_quiet { writer with queued := [] } request ticket
  · rename_i some
    rcases hushed with none | mute
    · exact absurd (List.isEmpty_iff.mpr none) some
    · obtain ⟨fault, failed⟩ := Sealer.sealData_mute mute (writer.queued ++ request.data)
      rw [failed]
      exact ⟨rfl, rfl, id⟩

theorem poll_quiet (operation : Operation) (rest : operation.stage.rest = [])
    (hushed : writer.queued ++ operation.request.data = [] ∨ writer.sealer.Mute) :
    (writer.poll operation).Quiet writer.sink.wire writer.sealer.Mute := by
  obtain ⟨request, stage⟩ := operation
  unfold poll
  cases stage with
  | unstarted =>
      dsimp only
      split
      · exact start_quiet { writer with lock := writer.lock.request.2 } request _ hushed
      · exact ⟨rfl, rfl, id⟩
  | waiting ticket =>
      dsimp only
      split
      · exact writer.start_quiet request ticket hushed
      · exact ⟨rfl, rfl, id⟩
  | sending ticket bytes =>
      cases rest
      exact writer.send_quiet request ticket
  | finishing ticket => exact writer.finish_quiet request ticket
  | finished => exact ⟨rfl, rfl, id⟩

end Writer
end Quiet
end SealedTunnel
