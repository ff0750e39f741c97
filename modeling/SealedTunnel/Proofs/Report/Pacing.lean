import SealedTunnel.Proofs.Report.Retrying

namespace SealedTunnel.Report

inductive Move
  | called (outcome : Except CollectorError Unit)
  | paused (span : Duration)

/-- An outcome that no further attempt is made after: the report is delivered, or it is turned down. -/
def settles : Except CollectorError Unit → Bool
  | .ok () => true
  | .error error => error.isBadRequest

/-- The pause after the attempt of that number, with a factor of at most 32 bits and within the longest span. -/
def pause (delay : Duration) (number : Nat) : Duration :=
  ⟨min (delay.nanos * min (Nat.pow 2 number) largestFactor) Duration.longest.nanos⟩

def tries (delay : Duration) (outcome : Nat → Except CollectorError Unit) (made : Nat) : List Move :=
  (List.range made).flatMap fun number => [.called (outcome number), .paused (pause delay number)]

def paced (delay : Duration) (outcome : Nat → Except CollectorError Unit) (pauses : Nat) : List Move :=
  tries delay outcome pauses ++ [.called (outcome pauses)]

section Watch

variable {σ : Type}

def watchCall (attempt : Delivery (StateM σ)) : Delivery (StateM (σ × List Move)) :=
  fun (state, moves) => ((attempt state).1, (attempt state).2, moves ++ [.called (attempt state).1])

def watchSleep (sleep : Duration → StateM σ Unit) (span : Duration) : StateM (σ × List Move) Unit :=
  fun (state, moves) => ((), (sleep span state).2, moves ++ [.paused span])

def watched (sleep : Duration → StateM σ Unit) (delay : Duration) (attempt : Delivery (StateM σ)) (maxRetry : Nat)
    (state : σ) : Except CollectorError Unit × σ × List Move :=
  retrying (watchSleep sleep) delay (watchCall attempt) maxRetry 0 (state, [])

variable (sleep : Duration → StateM σ Unit) (delay : Duration) (attempt : Delivery (StateM σ)) (state : σ)

def stateBefore : Nat → σ
  | 0 => state
  | number + 1 => (sleep (pause delay number) (attempt (stateBefore number)).2).2

def outcomeOf (number : Nat) : Except CollectorError Unit := (attempt (stateBefore sleep delay attempt state number)).1

def stateAfter (number : Nat) : σ := (attempt (stateBefore sleep delay attempt state number)).2

end Watch

theorem backoff_eq_pause (delay : Duration) (number : Nat) : backoff delay number = pause delay number := by
  -- From the 32nd attempt on both factors are cut to the largest one.
  have factor : min (Nat.pow 2 (min number 32)) largestFactor = min (Nat.pow 2 number) largestFactor := by
    rcases Nat.le_total number 32 with few | many
    · rw [Nat.min_eq_left few]
    · have fits : largestFactor ≤ Nat.pow 2 32 := by decide
      have grown : Nat.pow 2 32 ≤ Nat.pow 2 number := Nat.pow_le_pow_right (by decide) many
      rw [Nat.min_eq_right many, Nat.min_eq_right fits, Nat.min_eq_right (Nat.le_trans fits grown)]
  rw [backoff, factor, Duration.scaled, pause]

theorem factor_lt (number : Nat) : min (Nat.pow 2 number) largestFactor < UInt32.size :=
  Nat.lt_of_le_of_lt (Nat.min_le_right _ _) (by decide)

theorem seconds_pause_lt (delay : Duration) (number : Nat) : (pause delay number).nanos / Duration.perSecond < UInt64.size := by
  have capped : (pause delay number).nanos ≤ Duration.longest.nanos := Nat.min_le_right _ _
  exact Nat.lt_of_le_of_lt (Nat.div_le_div_right capped) (by decide)

section Retry

variable {σ : Type} {sleep : Duration → StateM σ Unit} {delay : Duration} {attempt : Delivery (StateM σ)} {state : σ}

theorem settles_eq_false {outcome : Except CollectorError Unit} :
    settles outcome = false ↔ ∃ error, outcome = .error error ∧ error.isBadRequest = false := by
  cases outcome <;> simp [settles]

theorem decides_of_settles {outcome : Except CollectorError Unit} (settled : settles outcome) (left : Nat) :
    Decides left outcome outcome := by
  cases outcome with
  | ok => exact .delivered
  | error error => exact .refused settled

theorem tries_succ (delay : Duration) (outcome : Nat → Except CollectorError Unit) (made : Nat) :
    tries delay outcome (made + 1) = tries delay outcome made ++ [.called (outcome made)] ++ [.paused (pause delay made)] := by
  simp [tries, List.range_succ, List.flatMap_append]

/-- Watching a retry does not change it. -/
theorem retrying_watched (left attempts : Nat) (state : σ) (moves : List Move) :
    retrying sleep delay attempt left attempts state =
      ((retrying (watchSleep sleep) delay (watchCall attempt) left attempts (state, moves)).1,
        (retrying (watchSleep sleep) delay (watchCall attempt) left attempts (state, moves)).2.1) := by
  have tried : ∀ state, attempt state = ((attempt state).1, (attempt state).2) := fun _ => rfl
  have noted : ∀ state moves, watchCall attempt (state, moves) =
      ((attempt state).1, (attempt state).2, moves ++ [.called (attempt state).1]) := fun _ _ => rfl
  induction left generalizing attempts state moves with
  | zero =>
      rcases decides_or_again 0 (attempt state).1 with ⟨result, decides⟩ | ⟨_, _, _, _, more⟩
      · rw [retrying_decided (tried state) decides, retrying_decided (noted state moves) decides]
      · cases more
  | succ left ih =>
      rcases decides_or_again (left + 1) (attempt state).1 with ⟨result, decides⟩ | ⟨error, _, failed, retryable, _⟩
      · rw [retrying_decided (tried state) decides, retrying_decided (noted state moves) decides]
      · have tried := tried state
        have noted := noted state moves
        rw [failed] at tried noted
        rw [retrying_again tried retryable, retrying_again noted retryable]
        exact ih _ _ _

theorem retrying_unsettled (made left : Nat)
    (unsettled : ∀ number < made, settles (outcomeOf sleep delay attempt state number) = false) :
    watched sleep delay attempt (left + made) state =
      retrying (watchSleep sleep) delay (watchCall attempt) left made
        (stateBefore sleep delay attempt state made, tries delay (outcomeOf sleep delay attempt state) made) := by
  induction made generalizing left with
  | zero => rfl
  | succ made ih =>
      obtain ⟨error, failed, retryable⟩ := settles_eq_false.mp (unsettled made (Nat.lt_succ_self made))
      have earlier := ih (left + 1) fun number fewer => unsettled number (Nat.lt_succ_of_lt fewer)
      have noted : watchCall attempt (stateBefore sleep delay attempt state made,
          tries delay (outcomeOf sleep delay attempt state) made) = (.error error, _) := Prod.ext failed rfl
      rw [Nat.add_right_comm, Nat.add_assoc, retrying_again noted retryable] at earlier
      rw [earlier, tries_succ, backoff_eq_pause]
      rfl

/-- The first outcome that settles something is the result, after one pause for each call in front of it. -/
theorem watched_settled {number maxRetry : Nat} (allowed : number ≤ maxRetry)
    (settled : settles (outcomeOf sleep delay attempt state number))
    (unsettled : ∀ earlier < number, settles (outcomeOf sleep delay attempt state earlier) = false) :
    watched sleep delay attempt maxRetry state =
      (outcomeOf sleep delay attempt state number, stateAfter sleep delay attempt state number,
        paced delay (outcomeOf sleep delay attempt state) number) := by
  obtain ⟨left, rfl⟩ := Nat.exists_eq_add_of_le' allowed
  rw [retrying_unsettled number left unsettled]
  refine retrying_decided ?_ (decides_of_settles settled left)
  rfl

theorem watched_exhausted {maxRetry : Nat}
    (unsettled : ∀ number ≤ maxRetry, settles (outcomeOf sleep delay attempt state number) = false) :
    watched sleep delay attempt maxRetry state =
      (.error .maxRetryExceeded, stateAfter sleep delay attempt state maxRetry,
        paced delay (outcomeOf sleep delay attempt state) maxRetry) := by
  obtain ⟨error, failed, retryable⟩ := settles_eq_false.mp (unsettled maxRetry (Nat.le_refl maxRetry))
  have whole := retrying_unsettled maxRetry 0 fun number fewer => unsettled number (Nat.le_of_lt fewer)
  have decides : Decides 0 (outcomeOf sleep delay attempt state maxRetry) (.error .maxRetryExceeded) :=
    failed ▸ .exhausted retryable rfl
  rw [Nat.zero_add] at whole
  rw [whole]
  refine retrying_decided ?_ decides
  rfl

end Retry

def downTwice : Surroundings Unit (StateM Nat) where
  deliver _ _ calls := (.error (if calls < 2 then .serverError 503 else .badRequest 400), calls + 1)
  sleep _ calls := ((), calls)
  draw calls := (.zero, calls)

end SealedTunnel.Report
