import SealedTunnel.Proofs.Stream.Lock
import SealedTunnel.Stream.Writer

/-!
Turns at the sink. A lock serves the operations that have asked for it: each has a ticket of its own,
and only the holder is at work.
-/
namespace SealedTunnel

namespace Stage

def ticket? : Stage → Option Ticket
  | waiting ticket | sending ticket _ | finishing ticket => some ticket
  | _ => none

def isActive : Stage → Bool
  | sending _ _ | finishing _ => true
  | _ => false

/-- Sealed bytes that the sink has not accepted yet. -/
def rest : Stage → Bytes
  | sending _ rest => rest
  | _ => []

/-- The ticket of an operation that goes on, and the lock once it has asked. -/
def asks (lock : Lock) : Stage → Option (Ticket × Lock)
  | unstarted => some lock.request
  | waiting ticket | sending ticket _ | finishing ticket => some (ticket, lock)
  | finished => none

def asked (ticket : Ticket) : Stage → Stage
  | unstarted => waiting ticket
  | stage => stage

theorem ticket?_asked {lock after : Lock} {ticket : Ticket} {stage : Stage}
    (asks : stage.asks lock = some (ticket, after)) : (stage.asked ticket).ticket? = some ticket := by
  cases stage with
  | unstarted => rfl
  | waiting | sending | finishing =>
      cases asks
      rfl
  | finished => cases asks

theorem ticket?_of_isActive {stage : Stage} (active : stage.isActive) : ∃ ticket, stage.ticket? = some ticket := by
  cases stage with
  | sending ticket | finishing ticket => exact ⟨ticket, rfl⟩
  | unstarted | waiting | finished => cases active

theorem isActive_asked (ticket : Ticket) (stage : Stage) : (stage.asked ticket).isActive = stage.isActive := by
  cases stage <;> rfl

theorem asks_of_ticket? {stage : Stage} {ticket : Ticket} (lock : Lock) (has : stage.ticket? = some ticket) :
    stage.asks lock = some (ticket, lock) := by
  cases stage <;> cases has <;> rfl

theorem eq_waiting {stage : Stage} {ticket : Ticket} (has : stage.ticket? = some ticket)
    (idle : stage.isActive = false) : stage = .waiting ticket := by
  cases stage with
  | waiting =>
      cases has
      rfl
  | sending | finishing => cases idle
  | unstarted | finished => cases has

theorem asked_of_idle {lock after : Lock} {ticket : Ticket} {stage : Stage}
    (asks : stage.asks lock = some (ticket, after)) (idle : stage.isActive = false) :
    stage.asked ticket = .waiting ticket := by
  cases stage with
  | unstarted => rfl
  | waiting =>
      cases asks
      rfl
  | sending | finishing => cases idle
  | finished => cases asks

theorem rest_eq_nil {stage : Stage} (idle : stage.isActive = false) : stage.rest = [] := by
  cases stage <;> first | rfl | cases idle

end Stage

def tickets (operations : List Operation) : List Ticket := operations.filterMap fun operation => operation.stage.ticket?

theorem tickets_cons {operation : Operation} {ticket : Ticket} (others : List Operation)
    (has : operation.stage.ticket? = some ticket) : tickets (operation :: others) = ticket :: tickets others := by
  rw [tickets, List.filterMap_cons, has]
  rfl

structure Crew (lock : Lock) (operations : List Operation) : Prop where
  serves : lock.Serves (tickets operations)
  active : ∀ operation ∈ operations, operation.stage.isActive → lock.holder = operation.stage.ticket?
  unfinished : ∀ operation ∈ operations, operation.stage ≠ .finished

namespace Crew

variable {lock after : Lock} {ticket : Ticket} {operation later : Operation} {operations others : List Operation}

theorem none : Crew .free [] where
  serves := Lock.serves_free
  active := List.forall_mem_nil _
  unfinished := List.forall_mem_nil _

theorem perm (crew : Crew lock operations) (same : operations.Perm others) : Crew lock others where
  serves := crew.serves.perm (same.filterMap _)
  active := fun operation mem => crew.active operation (same.mem_iff.mpr mem)
  unfinished := fun operation mem => crew.unfinished operation (same.mem_iff.mpr mem)

theorem add (crew : Crew lock operations) (request : Request) : Crew lock (.ofRequest request :: operations) where
  serves := crew.serves
  active := by
    intro operation mem active
    rcases List.mem_cons.mp mem with rfl | mem
    · cases active
    · exact crew.active operation mem active
  unfinished := by
    intro operation mem
    rcases List.mem_cons.mp mem with rfl | mem
    · exact fun gone => by cases gone
    · exact crew.unfinished operation mem

theorem slot {kept : Option Operation} (crew : Crew lock (kept.toList ++ others)) (request : Request) :
    Crew lock (kept.getD (.ofRequest request) :: others) := by
  cases kept with
  | none => exact crew.add request
  | some operation => exact crew

theorem asks (crew : Crew lock (operation :: others)) :
    ∃ ticket after, operation.stage.asks lock = some (ticket, after) := by
  have goes := crew.unfinished operation List.mem_cons_self
  cases stage : operation.stage with
  | unstarted => exact ⟨lock.request.1, lock.request.2, rfl⟩
  | waiting ticket | sending ticket | finishing ticket => exact ⟨ticket, lock, rfl⟩
  | finished => exact absurd stage goes

theorem others_idle (crew : Crew lock (operation :: others)) (has : operation.stage.ticket? = some ticket)
    (holds : lock.holder = some ticket) : ∀ other ∈ others, other.stage.isActive = false := by
  intro other mem
  refine Bool.eq_false_iff.mpr (fun active => ?_)
  have same := crew.active other (List.mem_cons_of_mem _ mem) active
  have distinct := crew.serves.distinct
  rw [tickets_cons others has] at distinct
  refine (List.nodup_cons.mp distinct).1 (List.mem_filterMap.mpr ⟨other, mem, ?_⟩)
  rw [← same, holds]

theorem ask (crew : Crew lock (operation :: others)) (asks : operation.stage.asks lock = some (ticket, after)) :
    Crew after ({ operation with stage := operation.stage.asked ticket } :: others) := by
  obtain ⟨request, stage⟩ := operation
  cases stage with
  | unstarted =>
      have requested : lock.request = (ticket, after) := Option.some.inj asks
      have serves := crew.serves.request
      rw [requested] at serves
      refine ⟨serves, ?_, ?_⟩
      · intro other mem active
        rcases List.mem_cons.mp mem with rfl | mem
        · cases active
        · have holds := crew.active other (List.mem_cons_of_mem _ mem) active
          obtain ⟨holder, held⟩ := Stage.ticket?_of_isActive active
          rw [held] at holds
          rw [Lock.request_held holds] at requested
          cases requested
          exact holds.trans held.symm
      · intro other mem
        rcases List.mem_cons.mp mem with rfl | mem
        · exact fun gone => by cases gone
        · exact crew.unfinished other (List.mem_cons_of_mem _ mem)
  | finished => cases asks
  | waiting | sending | finishing =>
      cases asks
      exact crew

theorem keep (crew : Crew lock (operation :: others)) (has : operation.stage.ticket? = some ticket)
    (holds : lock.holder = some ticket) (still : later.stage.ticket? = some ticket) : Crew lock (later :: others) := by
  refine ⟨?_, ?_, ?_⟩
  · have serves := crew.serves
    rw [tickets_cons others has] at serves
    rwa [tickets_cons others still]
  · intro other mem active
    rcases List.mem_cons.mp mem with rfl | mem
    · rw [holds, still]
    · exact crew.active other (List.mem_cons_of_mem _ mem) active
  · intro other mem
    rcases List.mem_cons.mp mem with rfl | mem
    · intro gone
      rw [gone] at still
      cases still
    · exact crew.unfinished other (List.mem_cons_of_mem _ mem)

theorem release (crew : Crew lock (operation :: others)) (has : operation.stage.ticket? = some ticket)
    (holds : lock.holder = some ticket) : Crew lock.release others := by
  refine ⟨?_, ?_, fun other mem => crew.unfinished other (List.mem_cons_of_mem _ mem)⟩
  · have serves := crew.serves
    rw [tickets_cons others has] at serves
    exact serves.release holds
  · intro other mem active
    rw [crew.others_idle has holds other mem] at active
    cases active

theorem leave (crew : Crew lock (operation :: others)) (has : operation.stage.ticket? = some ticket) :
    Crew (lock.leave ticket) others := by
  by_cases holds : lock.holder = some ticket
  · rw [Lock.leave, if_pos holds]
    exact crew.release has holds
  · refine ⟨?_, ?_, fun other mem => crew.unfinished other (List.mem_cons_of_mem _ mem)⟩
    · have serves := crew.serves
      rw [tickets_cons others has] at serves
      exact serves.leave
    · intro other mem active
      rw [Lock.leave, if_neg holds]
      exact crew.active other (List.mem_cons_of_mem _ mem) active

end Crew

section Turns

variable {σ : Type}

def Step.Turn (lock : Lock) (ticket : Ticket) (step : Step σ) : Prop :=
  match step.result with
  | .stalled _ => step.writer.lock = lock ∧ step.stage.isActive ∧ step.stage.ticket? = some ticket
  | .ready _ => step.writer.lock = lock.release

def Request.close [ByteSink σ] (request : Request) (sink : σ) : Poll (Except IoError Unit) × σ :=
  match request with
  | .write _ => (.ready (.ok ()), sink)
  | .flush => ByteSink.flush sink
  | .shutdown => ByteSink.shutdown sink

namespace Writer

variable [ByteSink σ] (writer : Writer σ) (request : Request) (ticket : Ticket)

theorem finish_eq : writer.finish request ticket =
    match request.close writer.sink with
    | (.ready result, sink) => { writer with sink }.conclude result
    | (.stalled reason, sink) => ⟨.stalled reason, { writer with sink }, .finishing ticket⟩ := by
  cases request <;> rfl

theorem finish_turn : (writer.finish request ticket).Turn writer.lock ticket := by
  rw [finish_eq]
  split
  · rfl
  · exact ⟨rfl, rfl, rfl⟩

theorem send_turn (rest : Bytes) : (writer.send request ticket rest).Turn writer.lock ticket := by
  unfold send
  split
  · exact ⟨rfl, rfl, rfl⟩
  · rfl
  · exact finish_turn _ request ticket

theorem start_turn : (writer.start request ticket).Turn writer.lock ticket := by
  unfold start
  dsimp only
  split
  · exact finish_turn _ request ticket
  · split
    · rfl
    · exact send_turn _ request ticket _

def turn : Stage → Step σ
  | .sending _ rest => writer.send request ticket rest
  | .finishing _ => writer.finish request ticket
  | _ => writer.start request ticket

theorem turn_keeps (stage : Stage) : (writer.turn request ticket stage).Turn writer.lock ticket := by
  cases stage with
  | unstarted | waiting | finished => exact writer.start_turn request ticket
  | sending _ rest => exact writer.send_turn request ticket rest
  | finishing => exact writer.finish_turn request ticket

variable {writer request ticket} {operation : Operation} {asked : Lock}

theorem poll_granted (asks : operation.stage.asks writer.lock = some (ticket, asked))
    (holds : asked.holder = some ticket) :
    writer.poll operation = { writer with lock := asked }.turn operation.request ticket operation.stage := by
  obtain ⟨request, stage⟩ := operation
  unfold poll
  cases stage with
  | unstarted =>
      have requested : writer.lock.request = (ticket, asked) := Option.some.inj asks
      dsimp only
      rw [requested, if_pos holds]
      rfl
  | waiting =>
      cases asks
      exact if_pos holds
  | sending | finishing =>
      cases asks
      rfl
  | finished => cases asks

theorem poll_waits (asks : operation.stage.asks writer.lock = some (ticket, asked))
    (idle : operation.stage.isActive = false) (waits : asked.holder ≠ some ticket) :
    writer.poll operation = ⟨.stalled (.turn ticket), { writer with lock := asked }, .waiting ticket⟩ := by
  obtain ⟨request, stage⟩ := operation
  unfold poll
  cases stage with
  | unstarted =>
      have requested : writer.lock.request = (ticket, asked) := Option.some.inj asks
      dsimp only
      rw [requested, if_neg waits]
  | waiting =>
      cases asks
      exact if_neg waits
  | sending | finishing => cases idle
  | finished => cases asks

end Writer

def Step.left (step : Step σ) (request : Request) : Option Operation :=
  match step.result with
  | .stalled _ => some ⟨request, step.stage⟩
  | .ready _ => none

theorem Step.Turn.left {step : Step σ} {lock : Lock} {ticket : Ticket} {request : Request} {later : Operation}
    (turn : step.Turn lock ticket) (left : step.left request = some later) :
    later.stage.isActive ∧ later.stage.ticket? = some ticket := by
  unfold Step.Turn at turn
  unfold Step.left at left
  cases result : step.result with
  | stalled reason =>
      rw [result] at turn left
      cases left
      exact turn.2
  | ready result =>
      rw [result] at left
      cases left

/-- How one of several operations is carried on: it has its turn while the others are not at work, or it
waits in line. -/
inductive Carried [ByteSink σ] (writer : Writer σ) (operation : Operation) (others : List Operation) : Prop
  | granted {ticket : Ticket} {asked : Lock} (asks : operation.stage.asks writer.lock = some (ticket, asked))
      (crew : Crew asked ({ operation with stage := operation.stage.asked ticket } :: others))
      (holds : asked.holder = some ticket) (idle : ∀ other ∈ others, other.stage.isActive = false)
      (step : writer.poll operation =
        { writer with lock := asked }.turn operation.request ticket operation.stage)
  | waits {ticket : Ticket} {asked : Lock} (asks : operation.stage.asks writer.lock = some (ticket, asked))
      (crew : Crew asked ({ operation with stage := .waiting ticket } :: others))
      (behind : asked.holder ≠ some ticket) (idle : operation.stage.isActive = false)
      (step : writer.poll operation = ⟨.stalled (.turn ticket), { writer with lock := asked }, .waiting ticket⟩)

namespace Crew

variable [ByteSink σ] {writer : Writer σ} {operation : Operation} {others : List Operation}

theorem carried (crew : Crew writer.lock (operation :: others)) : Carried writer operation others := by
  obtain ⟨ticket, asked, asks⟩ := crew.asks
  have crew := crew.ask asks
  have has := Stage.ticket?_asked asks
  by_cases holds : asked.holder = some ticket
  · exact .granted asks crew holds (crew.others_idle has holds) (Writer.poll_granted asks holds)
  · -- Whoever is at work holds the lock, so that this one is not.
    have idle : operation.stage.isActive = false := by
      refine Bool.eq_false_iff.mpr (fun active => holds ?_)
      have holder := crew.active _ List.mem_cons_self ((Stage.isActive_asked ticket operation.stage).trans active)
      exact holder.trans has
    refine .waits asks ?_ holds idle (Writer.poll_waits asks idle holds)
    rwa [Stage.asked_of_idle asks idle] at crew

theorem poll (crew : Crew writer.lock (operation :: others)) :
    Crew (writer.poll operation).writer.lock
      (((writer.poll operation).left operation.request).toList ++ others) := by
  cases crew.carried with
  | @granted ticket asked asks crew holds idle step =>
      have has := Stage.ticket?_asked asks
      have turn := Writer.turn_keeps { writer with lock := asked } operation.request ticket operation.stage
      rw [← step, Step.Turn] at turn
      unfold Step.left
      cases result : (writer.poll operation).result with
      | stalled reason =>
          rw [result] at turn
          obtain ⟨same, _, still⟩ := turn
          rw [same]
          exact crew.keep has holds still
      | ready result =>
          rw [result] at turn
          rw [turn]
          exact crew.release has holds
  | waits asks crew behind idle step =>
      rw [step]
      exact crew

omit [ByteSink σ] in
theorem cancel (crew : Crew writer.lock (operation :: others)) : Crew (writer.cancel operation).lock others := by
  obtain ⟨request, stage⟩ := operation
  cases stage with
  | unstarted => exact ⟨crew.serves, fun other mem => crew.active other (List.mem_cons_of_mem _ mem),
      fun other mem => crew.unfinished other (List.mem_cons_of_mem _ mem)⟩
  | waiting | sending | finishing => exact crew.leave rfl
  | finished => exact absurd rfl (crew.unfinished _ List.mem_cons_self)

theorem left_asked (crew : Crew writer.lock (operation :: others)) {later : Operation}
    (left : (writer.poll operation).left operation.request = some later) :
    ∃ ticket, later.stage.ticket? = some ticket := by
  cases crew.carried with
  | @granted ticket asked asks crew holds idle step =>
      have turn := Writer.turn_keeps { writer with lock := asked } operation.request ticket operation.stage
      rw [← step] at turn
      exact ⟨ticket, (turn.left left).2⟩
  | @waits ticket asked asks crew behind idle step =>
      rw [step] at left
      cases left
      exact ⟨ticket, rfl⟩

end Crew
end Turns
end SealedTunnel
