import SealedTunnel.Proofs.Stream.Recording
import SealedTunnel.Proofs.Stream.Sealing
import SealedTunnel.Proofs.Stream.Turns

/-! What may become of calls at a sink, and so of operations: those at a sink that never stalls, or never
fails, do not either. -/
namespace SealedTunnel

inductive Outcome
  | finished
  | failed
  | stalled
  deriving DecidableEq, Repr

namespace Poll

def isReady {α : Type} : Poll α → Bool
  | ready _ => true
  | stalled _ => false

def outcome {α : Type} : Poll (Except IoError α) → Outcome
  | ready (.ok _) => .finished
  | ready (.error _) => .failed
  | stalled _ => .stalled

/-- What a write of some bytes came to: one that takes none has failed. -/
def written : Poll (Except IoError Nat) → Outcome
  | ready (.ok 0) => .failed
  | answer => answer.outcome

theorem isReady_iff {α : Type} (answer : Poll (Except IoError α)) : answer.isReady ↔ answer.outcome ≠ .stalled := by
  obtain (error | value) | reason := answer <;> simp [isReady, outcome]

theorem outcome_eq_finished {answer : Poll (Except IoError Unit)} :
    answer.outcome = .finished ↔ answer = .ready (.ok ()) := by
  obtain (error | value) | reason := answer <;> simp [outcome]

theorem outcome_eq_failed {α : Type} {answer : Poll (Except IoError α)} :
    answer.outcome = .failed ↔ ∃ error, answer = .ready (.error error) := by
  obtain (error | value) | reason := answer <;> simp [outcome]

end Poll

variable {σ : Type} [ByteSink σ]

/-- States in which what calls at a sink come to is always allowed. -/
structure Behaves (allowed : Outcome → Prop) (good : σ → Prop) : Prop where
  write : ∀ {sink next : σ} {bytes : Bytes} {answer : Poll (Except IoError Nat)}, good sink → bytes ≠ [] →
    ByteSink.write sink bytes = (answer, next) → good next ∧ allowed answer.written
  flush : ∀ {sink next : σ} {answer : Poll (Except IoError Unit)}, good sink →
    ByteSink.flush sink = (answer, next) → good next ∧ allowed answer.outcome
  shutdown : ∀ {sink next : σ} {answer : Poll (Except IoError Unit)}, good sink →
    ByteSink.shutdown sink = (answer, next) → good next ∧ allowed answer.outcome

abbrev Prompt (prompt : σ → Prop) : Prop := Behaves (· ≠ .stalled) prompt

/-- States in which a sink may delay and take part of a write but does not fail, now and from then on. -/
abbrev Steady (steady : σ → Prop) : Prop := Behaves (· ≠ .failed) steady

def AlwaysReady (sink : σ) : Prop := ∃ prompt : σ → Prop, Prompt prompt ∧ prompt sink

variable {allowed : Outcome → Prop} {good : σ → Prop}

theorem Behaves.weaken {wider : Outcome → Prop} (behaves : Behaves allowed good)
    (weaker : ∀ outcome, allowed outcome → wider outcome) : Behaves wider good where
  write := fun here some done => (behaves.write here some done).imp_right (weaker _)
  flush := fun here done => (behaves.flush here done).imp_right (weaker _)
  shutdown := fun here done => (behaves.shutdown here done).imp_right (weaker _)

theorem Behaves.recorded (behaves : Behaves allowed good) :
    Behaves allowed fun recorded : Recorded σ => good recorded.sink where
  write := by
    intro recorded next bytes answer here some done
    obtain ⟨rfl, rfl⟩ := Prod.mk.inj done
    exact behaves.write here some rfl
  flush := by
    intro recorded next answer here done
    obtain ⟨rfl, rfl⟩ := Prod.mk.inj done
    exact behaves.flush here rfl
  shutdown := by
    intro recorded next answer here done
    obtain ⟨rfl, rfl⟩ := Prod.mk.inj done
    exact behaves.shutdown here rfl

theorem Behaves.close (behaves : Behaves allowed good) (finishes : allowed .finished) {request : Request}
    {sink next : σ} {answer : Poll (Except IoError Unit)} (here : good sink)
    (closed : request.close sink = (answer, next)) : good next ∧ allowed answer.outcome := by
  cases request with
  | write data =>
      cases closed
      exact ⟨here, finishes⟩
  | flush => exact behaves.flush here closed
  | shutdown => exact behaves.shutdown here closed

theorem drain_behaves (behaves : Behaves allowed good) (finishes : allowed .finished) (stuck : IoError) (sink : σ)
    (bytes : Bytes) (here : good sink) :
    good (drain stuck sink bytes).2.2 ∧ allowed (drain stuck sink bytes).1.outcome := by
  have nonempty : ∀ {bytes : Bytes}, ¬ bytes.length = 0 → bytes ≠ [] := fun some none => some (congrArg List.length none)
  fun_induction drain stuck sink bytes with
  | case1 sink bytes none => exact ⟨here, finishes⟩
  | case2 sink bytes some reason next written => exact behaves.write here (nonempty some) written
  | case3 sink bytes some error next written interrupted ih =>
      exact ih (behaves.write here (nonempty some) written).1
  | case4 sink bytes some error next written final => exact behaves.write here (nonempty some) written
  | case5 sink bytes some next written => exact behaves.write here (nonempty some) written
  | case6 sink bytes some count next written ih => exact ih (behaves.write here (nonempty some) written).1

def Step.Behaves (allowed : Outcome → Prop) (good : σ → Prop) (step : Step σ) : Prop :=
  good step.writer.sink ∧ allowed step.result.outcome

namespace Writer

variable (writer : Writer σ)

theorem finish_behaves (behaves : Behaves allowed good) (finishes : allowed .finished) (request : Request)
    (ticket : Ticket) (here : good writer.sink) : (writer.finish request ticket).Behaves allowed good := by
  rw [finish_eq]
  split
  · rename_i closed
    exact behaves.close finishes here closed
  · rename_i closed
    exact behaves.close finishes here closed

theorem send_behaves (behaves : Behaves allowed good) (finishes : allowed .finished) (request : Request)
    (ticket : Ticket) (rest : Bytes) (here : good writer.sink) :
    (writer.send request ticket rest).Behaves allowed good := by
  have drained := drain_behaves behaves finishes .stuck writer.sink rest here
  unfold send
  split
  · rename_i stalled
    rw [stalled] at drained
    exact drained
  · rename_i failed
    rw [failed] at drained
    exact drained
  · rename_i sent
    rw [sent] at drained
    exact finish_behaves _ behaves finishes request ticket drained.1

def MaySeal (allowed : Outcome → Prop) : Prop :=
  allowed .failed ∨ ∃ key salts payloads bytes, salts.IsAble key ∧ writer.sealer.Wrote key salts payloads bytes

theorem start_behaves (behaves : Behaves allowed good) (finishes : allowed .finished) (request : Request)
    (ticket : Ticket) (seals : writer.MaySeal allowed) (here : good writer.sink) :
    (writer.start request ticket).Behaves allowed good := by
  unfold start
  dsimp only
  split
  · exact finish_behaves _ behaves finishes request ticket here
  · split
    · rename_i fault sealer failed
      rcases seals with fails | ⟨key, salts, payloads, bytes, able, wrote⟩
      · exact ⟨here, fails⟩
      · obtain ⟨_, _, made, -⟩ := wrote.seal_able able (writer.queued ++ request.data)
        cases failed.symm.trans made
    · exact send_behaves _ behaves finishes request ticket _ here

theorem turn_behaves (behaves : Behaves allowed good) (finishes : allowed .finished) (request : Request)
    (ticket : Ticket) (stage : Stage) (seals : writer.MaySeal allowed) (here : good writer.sink) :
    (writer.turn request ticket stage).Behaves allowed good := by
  cases stage with
  | unstarted | waiting | finished => exact writer.start_behaves behaves finishes request ticket seals here
  | sending _ rest => exact writer.send_behaves behaves finishes request ticket rest here
  | finishing => exact writer.finish_behaves behaves finishes request ticket here

end Writer
end SealedTunnel
