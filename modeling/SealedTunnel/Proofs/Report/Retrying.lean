import SealedTunnel.Report.Collector

/-!
Collectors in surroundings that may answer as they like. All that a collector does is written down, and what comes next
may depend on all of it. A retry is a run of attempts that fail, each with its pause, and one attempt that decides.
-/
namespace SealedTunnel.Report

open Decimal (Binary64)

theorem bind_apply {σ α β : Type} (action : StateM σ α) (next : α → StateM σ β) (state : σ) :
    (action >>= next) state = next (action state).1 (action state).2 := rfl

theorem sampling_apply {σ : Type} (draw : StateM σ Binary64) (rate : Binary64) (delivery : Delivery (StateM σ)) (state : σ) :
    sampling draw rate delivery state =
      if (draw state).1.lt rate then delivery (draw state).2 else (.ok (), (draw state).2) := by
  unfold sampling
  rw [bind_apply]
  split <;> rfl

section Retry

variable {σ : Type} {sleep : Duration → StateM σ Unit} {delay : Duration} {attempt : Delivery (StateM σ)}
  {left attempts later : Nat} {state mid last : σ} {error : CollectorError} {tried result : Except CollectorError Unit}

/-- Attempts that have failed, each of them followed by its pause. -/
inductive Failing (sleep : Duration → StateM σ Unit) (delay : Duration) (attempt : Delivery (StateM σ)) :
    (attempts : Nat) → σ → (later : Nat) → σ → Prop
  | none {attempts : Nat} {state : σ} : Failing sleep delay attempt attempts state attempts state
  | again {attempts later : Nat} {state mid last : σ} {error : CollectorError}
      (failed : attempt state = (.error error, mid)) (retryable : error.isBadRequest = false)
      (rest : Failing sleep delay attempt (attempts + 1) (sleep (backoff delay attempts) mid).2 later last) :
      Failing sleep delay attempt attempts state later last

/-- What the last attempt makes of a retry that has `left` attempts after it. -/
inductive Decides (left : Nat) : (tried result : Except CollectorError Unit) → Prop
  | delivered : Decides left (.ok ()) (.ok ())
  | refused {error : CollectorError} (bad : error.isBadRequest = true) : Decides left (.error error) (.error error)
  | exhausted {error : CollectorError} (retryable : error.isBadRequest = false) (none : left = 0) :
      Decides left (.error error) (.error .maxRetryExceeded)

theorem retrying_decided (tries : attempt state = (tried, last)) (decides : Decides left tried result) :
    retrying sleep delay attempt left attempts state = (result, last) := by
  rw [retrying.eq_def]
  dsimp only
  rw [bind_apply, tries]
  cases decides with
  | delivered => rfl
  | refused bad =>
      simp only [bad, if_true]
      rfl
  | exhausted retryable none =>
      subst none
      simp only [retryable, Bool.false_eq_true, if_false]
      rfl

theorem retrying_again (failed : attempt state = (.error error, mid)) (retryable : error.isBadRequest = false) :
    retrying sleep delay attempt (left + 1) attempts state =
      retrying sleep delay attempt left (attempts + 1) (sleep (backoff delay attempts) mid).2 := by
  rw [retrying.eq_def]
  dsimp only
  rw [bind_apply, failed]
  simp only [retryable, Bool.false_eq_true, if_false]
  rfl

theorem decides_or_again (left : Nat) (tried : Except CollectorError Unit) :
    (∃ result, Decides left tried result) ∨
      ∃ error remaining, tried = .error error ∧ error.isBadRequest = false ∧ left = remaining + 1 := by
  cases tried with
  | ok => exact Or.inl ⟨_, .delivered⟩
  | error error =>
      cases bad : error.isBadRequest with
      | true => exact Or.inl ⟨_, .refused bad⟩
      | false =>
          cases left with
          | zero => exact Or.inl ⟨_, .exhausted bad rfl⟩
          | succ remaining => exact Or.inr ⟨error, remaining, rfl, bad, rfl⟩

/-- A retry is a run of attempts that fail, and one that decides with so many still left. -/
theorem retrying_runs (sleep : Duration → StateM σ Unit) (delay : Duration) (attempt : Delivery (StateM σ))
    (left attempts : Nat) (state : σ) :
    ∃ later before tried remaining, Failing sleep delay attempt attempts state later before ∧
      later + remaining = attempts + left ∧
      attempt before = (tried, (retrying sleep delay attempt left attempts state).2) ∧
      Decides remaining tried (retrying sleep delay attempt left attempts state).1 := by
  have tries : ∀ state, attempt state = ((attempt state).1, (attempt state).2) := fun _ => rfl
  -- The induction is on the attempts that are left, while those made count up.
  induction left generalizing attempts state with
  | zero =>
      rcases decides_or_again 0 (attempt state).1 with ⟨result, decides⟩ | ⟨_, _, _, _, more⟩
      · rw [retrying_decided (tries state) decides]
        exact ⟨attempts, state, _, 0, .none, rfl, rfl, decides⟩
      · cases more
  | succ left ih =>
      rcases decides_or_again (left + 1) (attempt state).1 with ⟨result, decides⟩ | ⟨error, remaining, failed, retryable, _⟩
      · rw [retrying_decided (tries state) decides]
        exact ⟨attempts, state, _, left + 1, .none, rfl, rfl, decides⟩
      · have fails : attempt state = (.error error, (attempt state).2) := failed ▸ tries state
        obtain ⟨later, before, tried, remaining, failing, counted, last, decides⟩ :=
          ih (attempts + 1) (sleep (backoff delay attempts) (attempt state).2).2
        rw [retrying_again fails retryable]
        exact ⟨later, before, tried, remaining, .again fails retryable failing, by omega, last, decides⟩

/-- What attempts that fail leave as it is, pauses included, holds when the last attempt is made. -/
theorem Failing.keeps {good : σ → Prop} (failing : Failing sleep delay attempt attempts state later last)
    (keeps : ∀ before after error attempts, good before → attempt before = (.error error, after) →
      error.isBadRequest = false → good (sleep (backoff delay attempts) after).2)
    (here : good state) : good last := by
  induction failing with
  | none => exact here
  | again failed retryable _ ih => exact ih (keeps _ _ _ _ here failed retryable)

end Retry

inductive Event (leaf : Type)
  | called (destination : leaf) (outcome : Except CollectorError Unit)
  | slept (span : Duration)
  | drew (number : Binary64)

def Event.outcome? {leaf : Type} : Event leaf → Option (Except CollectorError Unit)
  | called _ outcome => some outcome
  | _ => none

variable {leaf : Type}

def outcomes (history : List (Event leaf)) : List (Except CollectorError Unit) := history.filterMap Event.outcome?

@[simp] theorem outcomes_called (history : List (Event leaf)) (destination : leaf) (outcome : Except CollectorError Unit) :
    outcomes (history ++ [.called destination outcome]) = outcomes history ++ [outcome] := by
  simp [outcomes, Event.outcome?]

@[simp] theorem outcomes_slept (history : List (Event leaf)) (span : Duration) :
    outcomes (history ++ [.slept span]) = outcomes history := by
  simp [outcomes, Event.outcome?]

@[simp] theorem outcomes_drew (history : List (Event leaf)) (number : Binary64) :
    outcomes (history ++ [.drew number]) = outcomes history := by
  simp [outcomes, Event.outcome?]

/-- How destinations and chance answer, whatever has happened before. -/
structure Fate (leaf : Type) where
  deliver : (history : List (Event leaf)) → leaf → Report → Except CollectorError Unit
  draw : (history : List (Event leaf)) → Binary64

def Fate.surroundings (fate : Fate leaf) : Surroundings leaf (StateM (List (Event leaf))) where
  deliver destination report history :=
    (fate.deliver history destination report, history ++ [.called destination (fate.deliver history destination report)])
  sleep span history := ((), history ++ [.slept span])
  draw history := (fate.draw history, history ++ [.drew (fate.draw history)])

namespace Collector

variable {fate : Fate leaf} {report : Report} {destination : leaf} {successes failures : Binary64}
  {history after : List (Event leaf)} {result : Except CollectorError Unit}

def rate? (successes failures : Binary64) (report : Report) : Option Binary64 :=
  report.isSuccess.map fun isSuccess => if isSuccess then successes else failures

/-- A report that is sampled is left out by the number that is drawn, or else it is delivered. -/
theorem collect_sampling (collected : (Collector.sampling successes failures (.leaf destination)).collect
      fate.surroundings report history = (result, after)) :
    (∃ rate number, rate? successes failures report = some rate ∧ number.lt rate = false ∧ result = .ok () ∧
        after = history ++ [.drew number]) ∨
      ∃ before, after = before ++ [.called destination result] ∧ outcomes before = outcomes history := by
  unfold Collector.collect at collected
  cases known : report.isSuccess with
  | none =>
      rw [known] at collected
      dsimp only at collected
      unfold Collector.collect at collected
      cases collected
      exact Or.inr ⟨history, rfl, rfl⟩
  | some isSuccess =>
      rw [known] at collected
      dsimp only at collected
      rw [sampling_apply] at collected
      generalize limit : (if isSuccess then successes else failures) = rate at collected
      split at collected
      · unfold Collector.collect at collected
        cases collected
        exact Or.inr ⟨_, rfl, outcomes_drew _ _⟩
      · rename_i unsampled
        cases collected
        refine Or.inl ⟨rate, _, ?_, ?_, rfl, rfl⟩
        · rw [rate?, known, ← limit]
          rfl
        · exact Bool.eq_false_iff.mpr unsampled

/-- Nothing was called, or the last call failed in a way that another attempt is made for. -/
def Unheard (history : List (Event leaf)) : Prop :=
  outcomes history = [] ∨ ∃ error, (outcomes history).getLast? = some (.error error) ∧ error.isBadRequest = false

theorem unheard_again {attempts : Nat} {error : CollectorError} {delay : Duration}
    (collected : (Collector.sampling successes failures (.leaf destination)).collect
      fate.surroundings report history = (.error error, after)) (retryable : error.isBadRequest = false) :
    Unheard (fate.surroundings.sleep (backoff delay attempts) after).2 := by
  rcases collect_sampling collected with ⟨_, _, _, _, delivered, _⟩ | ⟨before, rfl, _⟩
  · cases delivered
  · refine Or.inr ⟨error, ?_, retryable⟩
    change (outcomes ((before ++ [_]) ++ [_])).getLast? = _
    rw [outcomes_slept, outcomes_called, List.getLast?_concat]

/-- A retry over sampling that ends well after a call: either that call was the last thing that happened, and it
delivered the report, or the last thing was a number that left the report out, and the last call had failed. -/
theorem retry_over_sampling (fate : Fate leaf) (report : Report) (maxRetry : Nat) (delay : Duration)
    (successes failures : Binary64) (destination : leaf) {history : List (Event leaf)}
    (collected : (Collector.retry maxRetry delay (.sampling successes failures (.leaf destination))).collect
      fate.surroundings report [] = (.ok (), history))
    (called : outcomes history ≠ []) :
    ((∀ number, history.getLast? ≠ some (.drew number)) ∧ (outcomes history).getLast? = some (.ok ())) ∨
      ∃ rate number error, rate? successes failures report = some rate ∧ number.lt rate = false ∧
        history.getLast? = some (.drew number) ∧
        (outcomes history).getLast? = some (.error error) ∧ error.isBadRequest = false := by
  unfold Collector.collect at collected
  obtain ⟨later, before, tried, remaining, failing, -, last, decides⟩ := retrying_runs fate.surroundings.sleep delay
    ((Collector.sampling successes failures (.leaf destination)).collect fate.surroundings report) maxRetry 0 []
  rw [collected] at last decides
  -- Before the last attempt nothing has been called, or the last call has failed.
  have unheard : Unheard before := failing.keeps
    (fun _ _ _ _ _ failed retryable => unheard_again failed retryable) (Or.inl rfl)
  cases decides
  rcases collect_sampling last with ⟨rate, number, limit, unsampled, -, rfl⟩ | ⟨earlier, rfl, -⟩
  · rw [outcomes_drew] at called ⊢
    obtain ⟨error, failed, retryable⟩ := unheard.resolve_left called
    exact Or.inr ⟨rate, number, error, limit, unsampled, List.getLast?_concat, failed, retryable⟩
  · refine Or.inl ⟨?_, ?_⟩
    · intro number drawn
      rw [List.getLast?_concat] at drawn
      cases drawn
    · rw [outcomes_called, List.getLast?_concat]

end Collector

/-- A destination that fails the first time and delivers after that, and numbers to draw. -/
def failsOnce (numbers : List Binary64) : Fate String where
  deliver history _ _ := if outcomes history = [] then .error (.serverError 503) else .ok ()
  draw history := numbers.getD (history.filter (· matches .drew _)).length .zero

def half : Binary64 := ⟨0x3fe0000000000000⟩

def threeQuarters : Binary64 := ⟨0x3fe8000000000000⟩

def trial (numbers : List Binary64) : Except CollectorError Unit × List (Event String) :=
  (Collector.retry 1 ⟨0⟩ (.sampling half half (.leaf ""))).collect (failsOnce numbers).surroundings ⟨.ok "", some true⟩ []

theorem trial_eq {numbers : List Binary64} {mid last : List (Event String)} {error : CollectorError}
    (first : sampling (failsOnce numbers).surroundings.draw half
      ((failsOnce numbers).surroundings.deliver "" ⟨.ok "", some true⟩) [] = (.error error, mid))
    (retryable : error.isBadRequest = false)
    (second : sampling (failsOnce numbers).surroundings.draw half
      ((failsOnce numbers).surroundings.deliver "" ⟨.ok "", some true⟩) (mid ++ [.slept (backoff ⟨0⟩ 0)]) = (.ok (), last)) :
    trial numbers = (.ok (), last) := by
  simp only [trial, Collector.collect, ite_self]
  exact (retrying_again first retryable).trans (retrying_decided second .delivered)

theorem retry_over_sampling_recovers :
    ∃ history, trial [.zero, .zero] = (.ok (), history) ∧ outcomes history ≠ [] ∧
      (outcomes history).getLast? = some (.ok ()) := by
  have delivered := @trial_eq [.zero, .zero] _ _ _ rfl rfl rfl
  have called : outcomes [Event.drew .zero, .called "" (.error (.serverError 503)), .slept (backoff ⟨0⟩ 0), .drew .zero,
    .called "" (.ok ())] ≠ [] := List.cons_ne_nil _ _
  refine ⟨_, delivered, called, ?_⟩
  rcases Collector.retry_over_sampling _ _ 1 ⟨0⟩ half half "" delivered called with accepted | leftOut
  · exact accepted.2
  · obtain ⟨_, _, _, _, _, drawn, _⟩ := leftOut
    cases drawn

/-- The second number leaves the report out, after the only call has failed. -/
theorem sampled_away :
    ∃ history, trial [.zero, threeQuarters] = (.ok (), history) ∧
      outcomes history = [.error (.serverError 503)] :=
  ⟨_, @trial_eq [.zero, threeQuarters] _ _ _ rfl rfl rfl, rfl⟩

end SealedTunnel.Report
