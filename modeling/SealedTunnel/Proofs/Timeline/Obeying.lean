import SealedTunnel.Proofs.Timeline.Course

/-!
What every step of a run obeys, the whole run obeys. A connection that has been tried may go on in the background,
and then it has to be settled; before the first try it need not be.
-/
namespace SealedTunnel

def Poll.value? {α : Type} : Poll α → Option α
  | ready value => some value
  | stalled _ => none

namespace Timeline

variable {μ γ α : Type} [Timeline γ]

/-- Tries of an operation, the clock and the work in the background obey a relation between the connection before and
after, and what came of it in between. -/
structure Obeys (poll : μ → γ → Poll α × μ × γ) (begun : μ → γ → Prop) (settled : γ → Prop)
    (relates : Option α → γ → γ → Prop) : Prop where
  trans : ∀ {result : Option α} {first second third : γ}, relates none first second → relates result second third →
    relates result first third
  tried : ∀ {state : μ} {line : γ}, begun state line → settled (poll state line).2.2 ∧
    relates (poll state line).1.value? line (poll state line).2.2
  again : ∀ {line : γ} (state : μ), settled line → begun state line
  background : ∀ {line next : γ}, settled line → background line = some next → settled next ∧ relates none line next
  setClock : ∀ {line : γ} (time : Nat), relates none line (setClock line time) ∧
    (settled line → settled (setClock line time))

variable {poll : μ → γ → Poll α × μ × γ} {begun : μ → γ → Prop} {settled : γ → Prop}
  {relates : Option α → γ → γ → Prop} {deadline : Nat} {waiting : Option Stall} {state last : μ} {line line' : γ}
  {result : Option α}

namespace Obeys

theorem tried_of (obeys : Obeys poll begun settled relates) (start : begun state line) {answer : Poll α} {mid : μ}
    (came : poll state line = (answer, mid, line')) : settled line' ∧ relates answer.value? line line' := by
  have tried := obeys.tried start
  rwa [came] at tried

theorem driven (obeys : Obeys poll begun settled relates)
    (run : Driven poll deadline waiting state line result last line')
    (start : waiting.elim (begun state line) fun _ => settled line) : settled line' ∧ relates result line line' := by
  induction run with
  | ready done | spent done => exact obeys.tried_of start done
  | stalled tried _ _ ih =>
      obtain ⟨rested, before⟩ := obeys.tried_of start tried
      exact (ih rested).imp_right (obeys.trans before)
  | background stepped _ ih =>
      obtain ⟨rested, before⟩ := obeys.background start stepped
      exact (ih rested).imp_right (obeys.trans before)
  | again _ _ _ ih => exact ih (obeys.again _ start)
  | woken _ _ _ _ _ ih =>
      obtain ⟨before, rested⟩ := obeys.setClock _
      exact (ih (rested start)).imp_right (obeys.trans before)
  | expired _ _ _ _ ih =>
      obtain ⟨before, rested⟩ := obeys.setClock _
      exact (ih (obeys.again _ (rested start))).imp_right (obeys.trans before)

theorem drive (obeys : Obeys poll begun settled relates) (start : begun state line)
    (came : drive poll deadline state line = (result, last, line')) :
    relates result line line' ∧ (result.isSome → settled line') := by
  unfold Timeline.drive at came
  cases ended : Pursuit.drive poll deadline ⟨none, state, line⟩ with
  | none =>
      rw [ended] at came
      cases came
      exact ⟨(obeys.setClock deadline).1, nofun⟩
  | some ending =>
      rw [ended] at came
      cases came
      obtain ⟨rested, after⟩ := obeys.driven (Driven.of_pursued ended) start
      exact ⟨after, fun _ => rested⟩

theorem driveCall {call : γ → Poll α × γ} {begun : Unit → γ → Prop} (obeys : Obeys (ofCall call) begun settled relates)
    (start : begun () line) (came : driveCall call deadline line = (result, line')) :
    relates result line line' ∧ (result.isSome → settled line') := by
  rw [driveCall_eq] at came
  cases came
  exact obeys.drive start rfl

end Obeys
end Timeline
end SealedTunnel
