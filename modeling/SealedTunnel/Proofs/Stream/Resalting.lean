import SealedTunnel.Proofs.Stream.SaltFailure

/-! Whoever yields the salts: a source is asked until there is a session, and makes no difference from then on. -/
namespace SealedTunnel

namespace Sealer

/-- How many of the salts that were asked for could not be had. -/
def refusals (sealer : Sealer) : Nat := sealer.attempts - sealer.session.toList.length

theorem refusals_again {sealer : Sealer} (unbegun : sealer.session = none) :
    refusals { sealer with attempts := sealer.attempts + 1 } = sealer.attempts + 1 := by
  simp [refusals, unbegun]

theorem sealData_asks (sealer : Sealer) (data : Bytes) :
    (sealer.sealData data).2.salts = sealer.salts ∧ sealer.refusals ≤ (sealer.sealData data).2.refusals ∧
      ((sealer.sealData data).2.session = none → sealer.session = none) := by
  cases begun : sealer.session with
  | some session =>
      simp only [sealData, begin, begun]
      split <;> simp [refusals, begun]
  | none =>
      cases drawn : sealer.salts.draw sealer.attempts sealer.key.saltSize with
      | error fault =>
          simp only [sealData_unsalted begun drawn]
          simp [refusals, begun]
      | ok salt =>
          obtain ⟨session, ofSalt⟩ := sealer.key.session_ok salt
          simp only [sealData, begin, begun, drawn, ofSalt]
          split <;> simp [refusals, begun]

end Sealer

section Poll

variable {σ : Type} [ByteSink σ]

namespace Writer

theorem sealer_start (writer : Writer σ) (request : Request) (ticket : Ticket) :
    (writer.start request ticket).writer.sealer = writer.sealer ∨
      ∃ data, (writer.start request ticket).writer.sealer = (writer.sealer.sealData data).2 := by
  unfold start
  dsimp only
  split
  · exact Or.inl (sealer_finish _ request ticket)
  · refine Or.inr ⟨writer.queued ++ request.data, ?_⟩
    generalize writer.sealer.sealData (writer.queued ++ request.data) = made
    obtain ⟨fault | sealed, sealer⟩ := made
    · rfl
    · exact sealer_send _ request ticket sealed

/-- An operation seals once at most. -/
theorem sealer_poll (writer : Writer σ) (operation : Operation) :
    (writer.poll operation).writer.sealer = writer.sealer ∨
      ∃ data, (writer.poll operation).writer.sealer = (writer.sealer.sealData data).2 := by
  unfold poll
  cases operation.stage with
  | unstarted =>
      dsimp only
      split
      · exact sealer_start { writer with lock := writer.lock.request.2 } operation.request _
      · exact Or.inl rfl
  | waiting ticket =>
      dsimp only
      split
      · exact sealer_start writer operation.request ticket
      · exact Or.inl rfl
  | sending ticket rest => exact Or.inl (sealer_send writer operation.request ticket rest)
  | finishing ticket => exact Or.inl (sealer_finish writer operation.request ticket)
  | finished => exact Or.inl rfl

theorem salts_poll (writer : Writer σ) (operation : Operation) :
    (writer.poll operation).writer.sealer.salts = writer.sealer.salts := by
  rcases writer.sealer_poll operation with same | ⟨data, made⟩
  · rw [same]
  · rw [made]
    exact (writer.sealer.sealData_asks data).1

theorem refusals_poll (writer : Writer σ) (operation : Operation) :
    writer.sealer.refusals ≤ (writer.poll operation).writer.sealer.refusals := by
  rcases writer.sealer_poll operation with same | ⟨data, made⟩
  · rw [same]
  · rw [made]
    exact (writer.sealer.sealData_asks data).2.1

theorem unbegun_poll {writer : Writer σ} {operation : Operation}
    (unbegun : (writer.poll operation).writer.sealer.session = none) : writer.sealer.session = none := by
  rcases writer.sealer_poll operation with same | ⟨data, made⟩
  · rwa [same] at unbegun
  · rw [made] at unbegun
    exact (writer.sealer.sealData_asks data).2.2 unbegun

end Writer

omit [ByteSink σ] in
def Step.withSalts (step : Step σ) (salts : SaltSource) : Step σ := { step with writer := step.writer.withSalts salts }

section WithSalts

variable {writer : Writer σ} {salts : SaltSource} {session : Aead}

omit [ByteSink σ] in
theorem Writer.withSalts_self (same : writer.sealer.salts = salts) : writer.withSalts salts = writer := by
  subst same
  rfl

theorem Sealer.sealData_withSalts {sealer : Sealer} (begun : sealer.session = some session) (data : Bytes) :
    sealData { sealer with salts } data = ((sealer.sealData data).1, { (sealer.sealData data).2 with salts }) := by
  simp only [sealData, begin, begun]
  split <;> simp only [begun]

namespace Writer

theorem finish_withSalts (writer : Writer σ) (request : Request) (ticket : Ticket) :
    (writer.withSalts salts).finish request ticket = (writer.finish request ticket).withSalts salts := by
  have same : request.close (writer.withSalts salts).sink = request.close writer.sink := rfl
  rw [finish_eq, finish_eq, same]
  obtain ⟨answer | reason, sink⟩ := request.close writer.sink <;> rfl

theorem send_withSalts (writer : Writer σ) (request : Request) (ticket : Ticket) (rest : Bytes) :
    (writer.withSalts salts).send request ticket rest = (writer.send request ticket rest).withSalts salts := by
  have same : drain .stuck (writer.withSalts salts).sink rest = drain .stuck writer.sink rest := rfl
  rw [send, send, same]
  obtain ⟨(error | done) | reason, left, sink⟩ := drain .stuck writer.sink rest
  · rfl
  · exact finish_withSalts { writer with sink } request ticket
  · rfl

theorem start_withSalts (begun : writer.sealer.session = some session) (request : Request) (ticket : Ticket) :
    (writer.withSalts salts).start request ticket = (writer.start request ticket).withSalts salts := by
  have same : (writer.withSalts salts).queued = writer.queued := rfl
  have resealed : ∀ data, (writer.withSalts salts).sealer.sealData data =
      ((writer.sealer.sealData data).1, { (writer.sealer.sealData data).2 with salts }) := Sealer.sealData_withSalts begun
  rw [start, start, same]
  dsimp only
  split
  · exact finish_withSalts { writer with queued := [] } request ticket
  · rw [resealed]
    generalize writer.sealer.sealData (writer.queued ++ request.data) = made
    obtain ⟨fault | sealed, sealer⟩ := made
    · rfl
    · exact send_withSalts { writer with queued := [], sealer } request ticket sealed

theorem turn_withSalts (begun : writer.sealer.session = some session) (request : Request) (ticket : Ticket)
    (stage : Stage) : (writer.withSalts salts).turn request ticket stage =
      (writer.turn request ticket stage).withSalts salts := by
  cases stage with
  | unstarted | waiting | finished => exact start_withSalts begun request ticket
  | sending _ rest => exact send_withSalts writer request ticket rest
  | finishing => exact finish_withSalts writer request ticket

theorem asking_withSalts (begun : writer.sealer.session = some session) {operation : Operation} {ticket : Ticket}
    {asked : Lock} (asks : operation.stage.asks writer.lock = some (ticket, asked))
    (idle : operation.stage.isActive = false) :
    (writer.withSalts salts).poll operation = (writer.poll operation).withSalts salts := by
  by_cases holds : asked.holder = some ticket
  · have granted : (writer.withSalts salts).poll operation = _ := poll_granted asks holds
    rw [granted, poll_granted asks holds]
    exact @turn_withSalts _ _ { writer with lock := asked } _ _ begun operation.request ticket operation.stage
  · have waits : (writer.withSalts salts).poll operation = _ := poll_waits asks idle holds
    rw [waits, poll_waits asks idle holds]
    rfl

/-- With a session, or as long as the source stays the same, an operation does the same whatever the source. -/
theorem poll_withSalts (same : writer.sealer.session = none → writer.sealer.salts = salts) (operation : Operation) :
    (writer.withSalts salts).poll operation = (writer.poll operation).withSalts salts := by
  cases begun : writer.sealer.session with
  | none =>
      have after := (writer.salts_poll operation).trans (same begun)
      rw [withSalts_self (same begun), Step.withSalts, withSalts_self after]
  | some session =>
      obtain ⟨request, stage⟩ := operation
      cases stage with
      | unstarted | waiting => exact asking_withSalts begun rfl rfl
      | sending ticket rest => exact send_withSalts writer request ticket rest
      | finishing ticket => exact finish_withSalts writer request ticket
      | finished => rfl

omit [ByteSink σ] in
theorem cancels_withSalts (writer : Writer σ) (operations : List Operation) :
    operations.foldl cancel (writer.withSalts salts) = (operations.foldl cancel writer).withSalts salts := by
  induction operations generalizing writer with
  | nil => rfl
  | cons operation operations ih =>
      have once : (writer.withSalts salts).cancel operation = (writer.cancel operation).withSalts salts := by
        unfold cancel
        cases operation.stage <;> rfl
      rw [List.foldl_cons, List.foldl_cons, once]
      exact ih _

end Writer
end WithSalts
end Poll

end SealedTunnel
