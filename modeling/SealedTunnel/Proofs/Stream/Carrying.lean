import SealedTunnel.Proofs.Stream.Behaviour
import SealedTunnel.Stream.Duplex

/-!
What the calls of a stream keep. An invariant that is kept when any operation is carried on, and that
allows for new ones, is kept by each call, whatever becomes of it.
-/
namespace SealedTunnel

def taken {α : Type} (data : Bytes) : Poll (Except IoError α) → Bytes
  | .ready (.ok _) => data
  | .ready (.error _) => []
  | .stalled _ => []

namespace Step

variable {σ : Type} {step : Step σ} {request : Request}

theorem eq_of_mem_left {operation : Operation} (mem : operation ∈ (step.left request).toList) :
    operation = ⟨request, step.stage⟩ := by
  unfold left at mem
  cases result : step.result with
  | stalled reason =>
      rw [result] at mem
      exact List.mem_singleton.mp mem
  | ready answer =>
      rw [result] at mem
      cases mem

theorem left_ready (ready : step.result.outcome ≠ .stalled) : step.left request = none := by
  unfold left
  cases result : step.result with
  | stalled reason =>
      rw [result] at ready
      exact absurd rfl ready
  | ready answer => rfl

theorem left_finished (finished : step.result.outcome = .finished) : step.left request = none :=
  left_ready (by rw [finished]; decide)

theorem left_failed (failed : step.result.outcome = .failed) : step.left request = none :=
  left_ready (by rw [failed]; decide)

end Step

namespace Duplex

variable {ρ σ : Type}

/-- The operations of a stream beside the accepted write, and those of others behind them. -/
def others (stream : Duplex ρ σ) (behind : List Operation) : List Operation :=
  stream.pendingFlush.toList ++ (stream.pendingShutdown.toList ++ behind)

/-- Where a stream keeps an operation of a call that may be given up. -/
inductive Slot
  | flush
  | shutdown

namespace Slot

def request : Slot → Request
  | flush => .flush
  | shutdown => .shutdown

def kept (stream : Duplex ρ σ) : Slot → Option Operation
  | flush => stream.pendingFlush
  | shutdown => stream.pendingShutdown

def beside (stream : Duplex ρ σ) : Slot → Option Operation
  | flush => stream.pendingShutdown
  | shutdown => stream.pendingFlush

def operation (slot : Slot) (stream : Duplex ρ σ) : Operation := (slot.kept stream).getD (.ofRequest slot.request)

def store (slot : Slot) (stream : Duplex ρ σ) (writer : Writer σ) (kept : Option Operation) : Duplex ρ σ :=
  match slot with
  | flush => { stream with writer, pendingFlush := kept }
  | shutdown => { stream with writer, pendingShutdown := kept }

theorem writer_store (slot : Slot) (stream : Duplex ρ σ) (writer : Writer σ) (kept : Option Operation) :
    (slot.store stream writer kept).writer = writer := by
  cases slot <;> rfl

theorem inFlight_store (slot : Slot) (stream : Duplex ρ σ) (writer : Writer σ) (kept : Option Operation) :
    (slot.store stream writer kept).inFlight = stream.inFlight := by
  cases slot <;> rfl

theorem others_perm (slot : Slot) (stream : Duplex ρ σ) (behind : List Operation) :
    (stream.others behind).Perm ((slot.kept stream).toList ++ ((slot.beside stream).toList ++ behind)) := by
  cases slot with
  | flush => exact .refl _
  | shutdown => exact List.perm_append_comm_assoc _ _ _

theorem mem_others {slot : Slot} {stream : Duplex ρ σ} {operation : Operation} (held : slot.kept stream = some operation)
    (behind : List Operation) : operation ∈ stream.others behind := by
  apply (slot.others_perm stream behind).mem_iff.mpr
  rw [held]
  exact List.mem_cons_self

theorem others_store (slot : Slot) (stream : Duplex ρ σ) (writer : Writer σ) (kept : Option Operation)
    (behind : List Operation) : ((slot.store stream writer kept).others behind).Perm
      (kept.toList ++ ((slot.beside stream).toList ++ behind)) := by
  cases slot with
  | flush => exact .refl _
  | shutdown => exact List.perm_append_comm_assoc _ _ _

end Slot
end Duplex

section Carries

variable {ρ σ : Type} [ByteSink σ]

/-- An invariant of a writer, the accepted write, the other operations and the data accepted so far, that the
calls of a stream keep: another operation is carried on only while no accepted write is unfinished. In a `strict`
sense only calls that do not fail keep it. -/
structure Carries (strict : Prop) (invariant : Writer σ → Option Operation → List Operation → Bytes → Prop) :
    Prop where
  perm : ∀ {writer : Writer σ} {accepted : Option Operation} {others same : List Operation} {total : Bytes},
    invariant writer accepted others total → others.Perm same → invariant writer accepted same total
  first : ∀ {writer : Writer σ} {operation : Operation} {others : List Operation} {total : Bytes},
    invariant writer (some operation) others total → (strict → (writer.poll operation).result.outcome ≠ .failed) →
      invariant (writer.poll operation).writer ((writer.poll operation).left operation.request) others total
  accept : ∀ {writer : Writer σ} {others : List Operation} {total : Bytes} (data : Bytes),
    invariant writer none others total → (writer.poll (.ofRequest (.write data))).result.outcome ≠ .failed →
      invariant (writer.poll (.ofRequest (.write data))).writer
        ((writer.poll (.ofRequest (.write data))).left (.write data)) others (total ++ data)
  refuse : ∀ {writer : Writer σ} {others : List Operation} {total : Bytes} (data : Bytes), ¬ strict →
    invariant writer none others total → (writer.poll (.ofRequest (.write data))).result.outcome = .failed →
      invariant (writer.poll (.ofRequest (.write data))).writer none others total
  slot : ∀ {writer : Writer σ} {kept : Option Operation} {others : List Operation} {total : Bytes}
    (request : Request), request.data = [] → invariant writer none (kept.toList ++ others) total →
      (strict → (writer.poll (kept.getD (.ofRequest request))).result.outcome ≠ .failed) →
      invariant (writer.poll (kept.getD (.ofRequest request))).writer none
        (((writer.poll (kept.getD (.ofRequest request))).left (kept.getD (.ofRequest request)).request).toList ++
          others) total

/-- An invariant that is kept when any operation is carried on, and that allows for new ones. After an accepted
write has failed it holds of any data. -/
structure Shares (invariant : Writer σ → Option Operation → List Operation → Bytes → Prop) : Prop where
  perm : ∀ {writer : Writer σ} {accepted : Option Operation} {others same : List Operation} {total : Bytes},
    invariant writer accepted others total → others.Perm same → invariant writer accepted same total
  add : ∀ {writer : Writer σ} {accepted : Option Operation} {others : List Operation} {total : Bytes}
    (request : Request), request.data = [] → invariant writer accepted others total →
      invariant writer accepted (.ofRequest request :: others) total
  accept : ∀ {writer : Writer σ} {others : List Operation} {total : Bytes} (data : Bytes),
    invariant writer none others total → invariant writer (some (.ofRequest (.write data))) others (total ++ data)
  first : ∀ {writer : Writer σ} {operation : Operation} {others : List Operation} {total : Bytes},
    invariant writer (some operation) others total →
      invariant (writer.poll operation).writer ((writer.poll operation).left operation.request) others total
  failed : ∀ {writer : Writer σ} {operation : Operation} {others : List Operation} {total : Bytes},
    invariant writer (some operation) others total → (writer.poll operation).result.outcome = .failed →
      ∀ other, invariant (writer.poll operation).writer none others other
  other : ∀ {writer : Writer σ} {accepted : Option Operation} {operation : Operation} {others : List Operation}
    {total : Bytes}, invariant writer accepted (operation :: others) total →
      invariant (writer.poll operation).writer accepted
        (((writer.poll operation).left operation.request).toList ++ others) total

variable {strict : Prop} {invariant : Writer σ → Option Operation → List Operation → Bytes → Prop}

theorem Shares.carries (shares : Shares invariant) : Carries False invariant where
  perm := shares.perm
  first := fun holds _ => shares.first holds
  accept := fun data holds _ => shares.first (shares.accept data holds)
  refuse := fun data _ holds failed => shares.failed (shares.accept data holds) failed _
  slot := by
    intro writer kept others total request bare holds _
    cases kept with
    | none => exact shares.other (shares.add request bare holds)
    | some operation => exact shares.other holds

/-- What holds of all operations together, the accepted write among them. -/
theorem Shares.of_all {invariant : Writer σ → List Operation → Prop}
    (perm : ∀ {writer : Writer σ} {operations others : List Operation}, invariant writer operations →
      operations.Perm others → invariant writer others)
    (add : ∀ {writer : Writer σ} {operations : List Operation}, invariant writer operations →
      ∀ request, invariant writer (.ofRequest request :: operations))
    (poll : ∀ {writer : Writer σ} {operation : Operation} {others : List Operation},
      invariant writer (operation :: others) →
        invariant (writer.poll operation).writer
          (((writer.poll operation).left operation.request).toList ++ others)) :
    Shares fun writer accepted others _ => invariant writer (accepted.toList ++ others) where
  perm := fun holds same => perm holds (same.append_left _)
  add := fun request _ holds => perm (add holds request) List.perm_middle.symm
  accept := fun data holds => add holds (.write data)
  first := fun holds => poll holds
  failed := by
    intro writer operation others total holds failed other
    have after := poll holds
    rwa [Step.left_failed failed] at after
  other := fun holds => perm (poll (perm holds List.perm_middle)) (List.perm_append_comm_assoc _ _ _)

namespace Duplex

def Keeps (invariant : Writer σ → Option Operation → List Operation → Bytes → Prop) (stream : Duplex ρ σ)
    (behind : List Operation) (total : Bytes) : Prop :=
  invariant stream.writer stream.inFlight (stream.others behind) total

theorem carry_eq (writer : Writer σ) (operation : Operation) :
    carry writer operation = ((writer.poll operation).result, (writer.poll operation).writer,
      (writer.poll operation).left operation.request) := by
  unfold carry Step.left
  dsimp only
  cases (writer.poll operation).result with
  | stalled reason => rfl
  | ready result => rfl

theorem pollInFlight_none {stream : Duplex ρ σ} (idle : stream.inFlight = none) :
    stream.pollInFlight = (.ready (.ok ()), stream) := by
  rw [pollInFlight, idle]

theorem pollInFlight_some {stream : Duplex ρ σ} {operation : Operation} (held : stream.inFlight = some operation) :
    stream.pollInFlight = ((stream.writer.poll operation).result, { stream with
      writer := (stream.writer.poll operation).writer
      inFlight := (stream.writer.poll operation).left operation.request }) := by
  rw [pollInFlight, held]
  dsimp only
  rw [carry_eq]

theorem inFlight_pollInFlight (stream : Duplex ρ σ) (ready : stream.pollInFlight.1.isReady) :
    stream.pollInFlight.2.inFlight = none := by
  unfold pollInFlight at ready ⊢
  cases kept : stream.inFlight with
  | none => exact kept
  | some operation =>
      rw [kept] at ready
      dsimp only at ready ⊢
      rw [carry_eq] at ready ⊢
      dsimp only at ready ⊢
      unfold Step.left
      cases result : (stream.writer.poll operation).result with
      | ready result => rfl
      | stalled reason =>
          rw [result] at ready
          cases ready

theorem pending_pollInFlight (stream : Duplex ρ σ) : stream.pollInFlight.2.pendingFlush = stream.pendingFlush ∧
    stream.pollInFlight.2.pendingShutdown = stream.pendingShutdown := by
  unfold pollInFlight
  cases stream.inFlight with
  | none => exact ⟨rfl, rfl⟩
  | some operation => exact ⟨rfl, rfl⟩

theorem failed_pollWrite {stream : Duplex ρ σ} (data : Bytes) (failed : stream.pollInFlight.1.outcome = .failed) :
    (stream.pollWrite data).1.outcome = .failed := by
  unfold pollWrite
  generalize stream.pollInFlight = before at failed ⊢
  obtain ⟨(error | done) | reason, next⟩ := before
  · rfl
  · cases failed
  · cases failed

namespace Slot

def poll (slot : Slot) (stream : Duplex ρ σ) : Poll (Except IoError Unit) × Duplex ρ σ :=
  match slot with
  | flush => stream.pollFlush
  | shutdown => stream.pollShutdown

theorem poll_eq (slot : Slot) (stream : Duplex ρ σ) : slot.poll stream =
    match stream.pollInFlight with
    | (.stalled reason, stream) => (.stalled reason, stream)
    | (.ready (.error error), stream) => (.ready (.error error), stream)
    | (.ready (.ok _), stream) =>
      let step := stream.writer.poll (slot.operation stream)
      (step.result, slot.store stream step.writer (step.left (slot.operation stream).request)) := by
  cases slot with
  | flush =>
      unfold poll pollFlush
      simp only [carry_eq]
      rfl
  | shutdown =>
      unfold poll pollShutdown
      simp only [carry_eq]
      rfl

theorem kept_pollInFlight (slot : Slot) (stream : Duplex ρ σ) :
    slot.kept stream.pollInFlight.2 = slot.kept stream := by
  cases slot with
  | flush => exact (pending_pollInFlight stream).1
  | shutdown => exact (pending_pollInFlight stream).2

theorem failed_poll (slot : Slot) {stream : Duplex ρ σ} (failed : stream.pollInFlight.1.outcome = .failed) :
    (slot.poll stream).1.outcome = .failed := by
  rw [poll_eq]
  generalize stream.pollInFlight = before at failed ⊢
  obtain ⟨(error | done) | reason, next⟩ := before
  · rfl
  · cases failed
  · cases failed

end Slot

variable {stream : Duplex ρ σ} {behind : List Operation} {total : Bytes}

theorem Keeps.pollInFlight (carries : Carries strict invariant) (keeps : stream.Keeps invariant behind total)
    (unfailed : strict → stream.pollInFlight.1.outcome ≠ .failed) :
    stream.pollInFlight.2.Keeps invariant behind total := by
  unfold Duplex.pollInFlight at unfailed ⊢
  cases kept : stream.inFlight with
  | none => exact keeps
  | some operation =>
      unfold Keeps at keeps
      rw [kept] at keeps unfailed
      dsimp only at unfailed ⊢
      rw [carry_eq] at unfailed ⊢
      exact carries.first keeps unfailed

theorem Keeps.pollWrite (carries : Carries strict invariant) (keeps : stream.Keeps invariant behind total)
    (data : Bytes) (unfailed : strict → (stream.pollWrite data).1.outcome ≠ .failed) :
    (stream.pollWrite data).2.Keeps invariant behind (total ++ taken data (stream.pollWrite data).1) := by
  have after := keeps.pollInFlight carries fun holds failed => unfailed holds (failed_pollWrite data failed)
  have clear := inFlight_pollInFlight stream
  unfold Duplex.pollWrite at unfailed ⊢
  generalize stream.pollInFlight = before at after clear unfailed ⊢
  obtain ⟨(error | done) | reason, next⟩ := before
  · rw [taken, List.append_nil]
    exact after
  · dsimp only at unfailed ⊢
    by_cases empty : data.isEmpty
    · rw [if_pos empty, taken, List.isEmpty_iff.mp empty, List.append_nil]
      exact after
    · rw [if_neg empty, carry_eq] at unfailed ⊢
      obtain ⟨reader, writer, inFlight, pendingFlush, pendingShutdown⟩ := next
      cases clear rfl
      have accept := carries.accept data after
      have refuse := fun lax => carries.refuse data lax after
      dsimp only at accept refuse unfailed ⊢
      unfold Step.left at accept ⊢
      cases answer : (writer.poll (.ofRequest (.write data))).result with
      | stalled reason =>
          rw [answer] at accept
          exact accept fun failed => by cases failed
      | ready result =>
          rw [answer] at accept refuse unfailed
          cases result with
          | error error =>
              dsimp only
              rw [taken, List.append_nil]
              exact refuse (fun holds => unfailed holds rfl) rfl
          | ok => exact accept fun failed => by cases failed
  · rw [taken, List.append_nil]
    exact after

theorem writer_pollWrite {data : Bytes} (finished : stream.pollInFlight.1.outcome = .finished) (some : data ≠ []) :
    (stream.pollWrite data).2.writer = (stream.pollInFlight.2.writer.poll (.ofRequest (.write data))).writer := by
  have full : ¬ data.isEmpty := fun empty => some (List.isEmpty_iff.mp empty)
  unfold pollWrite
  generalize stream.pollInFlight = before at finished
  obtain ⟨(error | done) | reason, next⟩ := before
  · cases finished
  · dsimp only
    rw [if_neg full, carry_eq]
    obtain (error | done) | reason := (next.writer.poll (.ofRequest (.write data))).result <;> rfl
  · cases finished

theorem pollWrite_idle {data : Bytes} (idle : stream.inFlight = none) (some : data ≠ [])
    (finished : (stream.writer.poll (.ofRequest (.write data))).result = .ready (.ok ())) :
    stream.pollWrite data = (.ready (.ok data.length),
      { stream with writer := (stream.writer.poll (.ofRequest (.write data))).writer }) := by
  have full : ¬ data.isEmpty := fun empty => some (List.isEmpty_iff.mp empty)
  rw [pollWrite, pollInFlight_none idle]
  dsimp only
  rw [if_neg full, carry_eq, finished]

/-- A write that stalls does so at the write accepted before, and takes nothing of its data. -/
theorem pollWrite_stalled {data : Bytes} {reason : Stall} (stalled : (stream.pollWrite data).1 = .stalled reason)
    (other : Bytes) : stream.pollWrite other = stream.pollWrite data := by
  unfold Duplex.pollWrite at stalled ⊢
  generalize stream.pollInFlight = before at stalled ⊢
  obtain ⟨(error | done) | reason, next⟩ := before
  · cases stalled
  · dsimp only at stalled
    split at stalled
    · cases stalled
    · split at stalled <;> cases stalled
  · rfl

theorem Keeps.pollSlot (slot : Slot) (carries : Carries strict invariant) (keeps : stream.Keeps invariant behind total)
    (unfailed : strict → (slot.poll stream).1.outcome ≠ .failed) : (slot.poll stream).2.Keeps invariant behind total := by
  have after := keeps.pollInFlight carries fun holds failed => unfailed holds (slot.failed_poll failed)
  have clear := inFlight_pollInFlight stream
  rw [Slot.poll_eq] at unfailed ⊢
  generalize stream.pollInFlight = before at after clear unfailed ⊢
  obtain ⟨(error | done) | reason, next⟩ := before
  · exact after
  · have none : next.inFlight = none := clear rfl
    have bare : slot.request.data = [] := by cases slot <;> rfl
    unfold Keeps at after ⊢
    rw [none] at after
    dsimp only
    rw [Slot.writer_store, Slot.inFlight_store, none]
    have carried := carries.slot slot.request bare (carries.perm after (slot.others_perm next behind)) unfailed
    exact carries.perm carried (slot.others_store _ _ _ _).symm
  · exact after

theorem Keeps.pollFlush (carries : Carries strict invariant) (keeps : stream.Keeps invariant behind total)
    (unfailed : strict → stream.pollFlush.1.outcome ≠ .failed) : stream.pollFlush.2.Keeps invariant behind total :=
  keeps.pollSlot .flush carries unfailed

theorem Keeps.pollShutdown (carries : Carries strict invariant) (keeps : stream.Keeps invariant behind total)
    (unfailed : strict → stream.pollShutdown.1.outcome ≠ .failed) :
    stream.pollShutdown.2.Keeps invariant behind total :=
  keeps.pollSlot .shutdown carries unfailed

end Duplex
end Carries
end SealedTunnel
