import SealedTunnel.Timeline

/-!
What an operation comes to when no deadline ends it, and what a deadline makes of that. Up to the deadline all goes as it
would without one, so that an end before the deadline is the same end; and without an end the deadline is the last time
there is.
-/
namespace SealedTunnel.Timeline

variable {μ γ α : Type} [Timeline γ]

def nextAlarm (reason : Stall) (line : γ) : Option Nat := Option.merge min reason.alarm (alarm line)

theorem earliest_nextAlarm (deadline : Nat) (reason : Stall) (line : γ) :
    earliest deadline [reason.alarm, alarm line] = (nextAlarm reason line).elim deadline (min deadline) := by
  unfold nextAlarm
  cases reason.alarm <;> cases alarm line <;> simp [earliest, Option.merge]

section

variable (poll : μ → γ → Poll α × μ × γ)

/-- A run without a deadline, from a state in which the operation may stall, to its result. -/
inductive Course : Option Stall → μ → γ → α → μ → γ → Prop
  | ready {state state' line line' value} (done : poll state line = (.ready value, state', line')) :
      Course none state line value state' line'
  | stalled {state mid last line line' line'' reason value} (tried : poll state line = (.stalled reason, mid, line'))
      (rest : Course (some reason) mid line' value last line'') : Course none state line value last line''
  | background {state last line line' line'' reason value} (stepped : background line = some line')
      (rest : Course (some reason) state line' value last line'') : Course (some reason) state line value last line''
  | again {state last line line' reason value} (quiet : background line = none)
      (ripe : reason.isOver (now line) (granted line)) (rest : Course none state line value last line') :
      Course (some reason) state line value last line'
  | woken {state last line line' reason value next} (quiet : background line = none)
      (stuck : ¬ reason.isOver (now line) (granted line)) (alarmed : nextAlarm reason line = some next)
      (rest : Course (some reason) state (setClock line next) value last line') :
      Course (some reason) state line value last line'

/-- A run up to a deadline: to a result, or to the stall of the last try. -/
inductive Driven (deadline : Nat) : Option Stall → μ → γ → Option α → μ → γ → Prop
  | ready {state state' line line' value} (done : poll state line = (.ready value, state', line')) :
      Driven deadline none state line (some value) state' line'
  | spent {state state' line line' reason} (tried : poll state line = (.stalled reason, state', line'))
      (late : deadline ≤ now line') : Driven deadline none state line none state' line'
  | stalled {state mid last line line' line'' reason result}
      (tried : poll state line = (.stalled reason, mid, line')) (early : now line' < deadline)
      (rest : Driven deadline (some reason) mid line' result last line'') : Driven deadline none state line result last line''
  | background {state last line line' line'' reason result} (stepped : background line = some line')
      (rest : Driven deadline (some reason) state line' result last line'') :
      Driven deadline (some reason) state line result last line''
  | again {state last line line' reason result} (quiet : background line = none)
      (ripe : reason.isOver (now line) (granted line)) (rest : Driven deadline none state line result last line') :
      Driven deadline (some reason) state line result last line'
  | woken {state last line line' reason result next} (quiet : background line = none)
      (stuck : ¬ reason.isOver (now line) (granted line)) (alarmed : nextAlarm reason line = some next)
      (early : next < deadline) (rest : Driven deadline (some reason) state (setClock line next) result last line') :
      Driven deadline (some reason) state line result last line'
  | expired {state last line line' reason result} (quiet : background line = none)
      (stuck : ¬ reason.isOver (now line) (granted line)) (late : ∀ next ∈ nextAlarm reason line, deadline ≤ next)
      (rest : Driven deadline none state (setClock line deadline) result last line') :
      Driven deadline (some reason) state line result last line'

end

variable {poll : μ → γ → Poll α × μ × γ} {deadline : Nat} {waiting : Option Stall} {state last : μ} {line line' : γ}
  {result : Option α} {value : α}

theorem earliest_of_late {reason : Stall} (late : ∀ next ∈ nextAlarm reason line, deadline ≤ next) :
    earliest deadline [reason.alarm, alarm line] = deadline := by
  rw [earliest_nextAlarm]
  cases alarmed : nextAlarm reason line with
  | none => rfl
  | some next => exact Nat.min_eq_left (late next alarmed)

theorem earliest_of_early {reason : Stall} {next : Nat} (alarmed : nextAlarm reason line = some next)
    (early : next < deadline) : earliest deadline [reason.alarm, alarm line] = next := by
  rw [earliest_nextAlarm, alarmed]
  exact Nat.min_eq_right (Nat.le_of_lt early)

theorem Pursuit.drive_trying : Pursuit.drive poll deadline ⟨none, state, line⟩ =
    match poll state line with
    | (.ready value, state, line) => some (some value, state, line)
    | (.stalled reason, state, line) =>
      if deadline ≤ now line then some (none, state, line) else Pursuit.drive poll deadline ⟨some reason, state, line⟩ :=
  Pursuit.drive.eq_def poll deadline ⟨none, state, line⟩

theorem Pursuit.drive_waiting {reason : Stall} : Pursuit.drive poll deadline ⟨some reason, state, line⟩ =
    match background line with
    | some line => Pursuit.drive poll deadline ⟨some reason, state, line⟩
    | none =>
      if reason.isOver (now line) (granted line) then Pursuit.drive poll deadline ⟨none, state, line⟩
      else
        let next := earliest deadline [reason.alarm, alarm line]
        Pursuit.drive poll deadline ⟨if next = deadline then none else some reason, state, setClock line next⟩ :=
  Pursuit.drive.eq_def poll deadline ⟨some reason, state, line⟩

theorem Driven.pursued (run : Driven poll deadline waiting state line result last line') :
    Pursuit.drive poll deadline ⟨waiting, state, line⟩ = some (result, last, line') := by
  induction run with
  | ready done => rw [Pursuit.drive_trying, done]
  | spent tried late =>
      rw [Pursuit.drive_trying, tried]
      exact if_pos late
  | stalled tried early _ ih =>
      rw [Pursuit.drive_trying, tried]
      exact (if_neg (Nat.not_le.mpr early)).trans ih
  | background stepped _ ih =>
      rw [Pursuit.drive_waiting, stepped]
      exact ih
  | again quiet ripe _ ih =>
      rw [Pursuit.drive_waiting, quiet]
      exact (if_pos ripe).trans ih
  | woken quiet stuck alarmed early _ ih =>
      rw [Pursuit.drive_waiting, quiet, earliest_of_early alarmed early]
      refine (if_neg stuck).trans ?_
      simpa only [if_neg (Nat.ne_of_lt early)] using ih
  | expired quiet stuck late _ ih =>
      rw [Pursuit.drive_waiting, quiet, earliest_of_late late]
      refine (if_neg stuck).trans ?_
      simpa only [if_pos] using ih

theorem Driven.of_pursued (ended : Pursuit.drive poll deadline ⟨waiting, state, line⟩ = some (result, last, line')) :
    Driven poll deadline waiting state line result last line' := by
  -- The induction is on the unfoldings of the loop, which is all that is known of a run that may not end.
  refine Pursuit.drive.partial_correctness poll deadline
    (fun ⟨waiting, state, line⟩ ended => Driven poll deadline waiting state line ended.1 ended.2.1 ended.2.2) ?_
    ⟨waiting, state, line⟩ _ ended
  rintro onward ih ⟨waiting, state, line⟩ ended came
  cases waiting with
  | none =>
      dsimp only at came
      split at came
      next value mid line' done =>
        cases came
        exact .ready done
      next reason mid line' tried =>
        split at came
        next late =>
          cases came
          exact .spent tried late
        next early => exact .stalled tried (Nat.not_le.mp early) (ih _ _ came)
  | some reason =>
      dsimp only at came
      split at came
      next line' stepped => exact .background stepped (ih _ _ came)
      next quiet =>
        split at came
        next ripe => exact .again quiet ripe (ih _ _ came)
        next stuck =>
          by_cases early : ∃ next, nextAlarm reason line = some next ∧ next < deadline
          · obtain ⟨next, alarmed, early⟩ := early
            rw [earliest_of_early alarmed early, if_neg (Nat.ne_of_lt early)] at came
            exact .woken quiet stuck alarmed early (ih _ _ came)
          · have late : ∀ next ∈ nextAlarm reason line, deadline ≤ next := by
              intro next alarmed
              exact Nat.not_lt.mp fun sooner => early ⟨next, alarmed, sooner⟩
            rw [earliest_of_late late, if_pos rfl] at came
            exact .expired quiet stuck late (ih _ _ came)

/-- The clock shows what it was set to, and otherwise stands still; background work that rests is to be woken later on. -/
class Regular (γ : Type) [Timeline γ] : Prop where
  now_setClock : ∀ (line : γ) (time : Nat), now (setClock line time) = time
  now_background : ∀ line next : γ, background line = some next → now next = now line
  now_lt_alarm : ∀ (line : γ) (due : Nat), background line = none → alarm line = some due → now line < due

def Timeless (poll : μ → γ → Poll α × μ × γ) : Prop := ∀ state line, now (poll state line).2.2 = now line

theorem Timeless.now_of {mid : μ} {tried : Poll α} (timeless : Timeless poll)
    (came : poll state line = (tried, mid, line')) : now line' = now line := by
  have same := timeless state line
  rwa [came] at same

theorem Driven.late (run : Driven poll deadline waiting state line none last line') : deadline ≤ now line' := by
  generalize none : (none : Option α) = result at run
  induction run with
  | ready => cases none
  | spent _ late => exact late
  | stalled _ _ _ ih | background _ _ ih | again _ _ _ ih | woken _ _ _ _ _ ih | expired _ _ _ _ ih => exact ih none

section

variable [Regular γ]

theorem now_lt_nextAlarm {reason : Stall} {next : Nat} (quiet : background line = none)
    (stuck : ¬ reason.isOver (now line) (granted line)) (alarmed : nextAlarm reason line = some next) :
    now line < next := by
  have awaited : ∀ due, reason.alarm = some due → now line < due := by
    intro due set
    cases reason with
    | clock time =>
        cases set
        simpa [Stall.isOver] using stuck
    | yielded | peer | turn => cases set
  have rested := Regular.now_lt_alarm line
  unfold nextAlarm at alarmed
  cases here : reason.alarm with
  | none =>
      rw [here, Option.merge_none_left] at alarmed
      exact rested next quiet alarmed
  | some due =>
      cases there : alarm line with
      | none =>
          rw [here, there] at alarmed
          cases alarmed
          exact awaited _ here
      | some time =>
          rw [here, there] at alarmed
          cases alarmed
          exact Nat.lt_min.mpr ⟨awaited due here, rested time quiet there⟩

theorem Course.now_le (timeless : Timeless poll) (course : Course poll waiting state line value last line') :
    now line ≤ now line' := by
  induction course with
  | ready done => exact Nat.le_of_eq (timeless.now_of done).symm
  | stalled tried _ ih => rwa [timeless.now_of tried] at ih
  | background stepped _ ih => rwa [Regular.now_background _ _ stepped] at ih
  | again _ _ _ ih => exact ih
  | woken quiet stuck alarmed _ ih =>
      rw [Regular.now_setClock] at ih
      exact Nat.le_trans (Nat.le_of_lt (now_lt_nextAlarm quiet stuck alarmed)) ih

theorem Driven.now_le (timeless : Timeless poll) (run : Driven poll deadline waiting state line result last line')
    (begun : now line ≤ deadline) : now line ≤ now line' ∧ now line' ≤ deadline := by
  induction run with
  | ready done =>
      rw [timeless.now_of done]
      exact ⟨Nat.le_refl _, begun⟩
  | spent tried =>
      rw [timeless.now_of tried]
      exact ⟨Nat.le_refl _, begun⟩
  | stalled tried _ _ ih =>
      rw [timeless.now_of tried] at ih
      exact ih begun
  | background stepped _ ih =>
      rw [Regular.now_background _ _ stepped] at ih
      exact ih begun
  | again _ _ _ ih => exact ih begun
  | woken quiet stuck alarmed early _ ih =>
      rw [Regular.now_setClock] at ih
      obtain ⟨later, inTime⟩ := ih (Nat.le_of_lt early)
      exact ⟨Nat.le_trans (Nat.le_of_lt (now_lt_nextAlarm quiet stuck alarmed)) later, inTime⟩
  | expired _ _ _ _ ih =>
      rw [Regular.now_setClock] at ih
      obtain ⟨later, inTime⟩ := ih (Nat.le_refl _)
      exact ⟨Nat.le_trans begun later, inTime⟩

theorem Course.driven (timeless : Timeless poll) (course : Course poll waiting state line value last line')
    (early : now line' < deadline) : Driven poll deadline waiting state line (some value) last line' := by
  induction course with
  | ready done => exact .ready done
  | stalled tried rest ih => exact .stalled tried (Nat.lt_of_le_of_lt (rest.now_le timeless) early) (ih early)
  | background stepped _ ih => exact .background stepped (ih early)
  | again quiet ripe _ ih => exact .again quiet ripe (ih early)
  | woken quiet stuck alarmed rest ih =>
      have sooner := rest.now_le timeless
      rw [Regular.now_setClock] at sooner
      exact .woken quiet stuck alarmed (Nat.lt_of_le_of_lt sooner early) (ih early)

theorem Driven.course (timeless : Timeless poll)
    (run : Driven poll deadline waiting state line (some value) last line') (early : now line' < deadline) :
    Course poll waiting state line value last line' := by
  generalize some : some value = result at run
  induction run with
  | ready done =>
      cases some
      exact .ready done
  | spent => cases some
  | stalled tried _ _ ih => exact .stalled tried (ih early some)
  | background stepped _ ih => exact .background stepped (ih early some)
  | again quiet ripe _ ih => exact .again quiet ripe (ih early some)
  | woken quiet stuck alarmed _ _ ih => exact .woken quiet stuck alarmed (ih early some)
  | expired _ _ _ rest =>
      -- What follows the last try is not before the deadline.
      have reached := (rest.now_le timeless (Nat.le_of_eq (Regular.now_setClock _ _))).1
      rw [Regular.now_setClock] at reached
      exact absurd early (Nat.not_lt.mpr reached)

omit [Regular γ] in
theorem drive_eq_some : drive poll deadline state line = (some value, last, line') ↔
    Driven poll deadline none state line (some value) last line' := by
  unfold drive
  constructor
  · intro came
    cases ended : Pursuit.drive poll deadline ⟨none, state, line⟩ with
    | none =>
        rw [ended] at came
        cases came
    | some end_ =>
        rw [ended] at came
        cases came
        exact Driven.of_pursued ended
  · intro run
    rw [run.pursued]
    rfl

/-- An operation with a deadline: what it comes to before the deadline it comes to without one. -/
theorem drive_early (timeless : Timeless poll) (early : now line' < deadline) :
    drive poll deadline state line = (some value, last, line') ↔ Course poll none state line value last line' := by
  rw [drive_eq_some]
  constructor
  · intro run
    exact run.course timeless early
  · intro course
    exact course.driven timeless early

theorem now_drive_none (timeless : Timeless poll) (begun : now line ≤ deadline)
    (late : drive poll deadline state line = (none, last, line')) : now line' = deadline := by
  unfold drive at late
  cases ended : Pursuit.drive poll deadline ⟨none, state, line⟩ with
  | none =>
      rw [ended] at late
      cases late
      exact Regular.now_setClock _ _
  | some end_ =>
      rw [ended] at late
      cases late
      have run := Driven.of_pursued ended
      exact Nat.le_antisymm (run.now_le timeless begun).2 run.late

end

def ofCall (call : γ → Poll α × γ) (_ : Unit) (line : γ) : Poll α × Unit × γ := ((call line).1, (), (call line).2)

theorem driveCall_eq (call : γ → Poll α × γ) (deadline : Nat) (line : γ) : driveCall call deadline line =
    ((drive (ofCall call) deadline () line).1, (drive (ofCall call) deadline () line).2.2) := rfl

end SealedTunnel.Timeline
