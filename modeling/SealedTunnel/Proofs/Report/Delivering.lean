import SealedTunnel.Proofs.Report.Retrying

namespace SealedTunnel.Report

section Fallback

variable {leaf σ : Type} {surroundings : Surroundings leaf (StateM σ)} {report : Report} {collector : Collector leaf}
  {alternatives : List (Collector leaf)} {state mid after : σ} {error : CollectorError} {errors : List CollectorError}

/-- Alternatives that are tried one after the other and fail, each with its error. -/
inductive Fails (surroundings : Surroundings leaf (StateM σ)) (report : Report) :
    List (Collector leaf) → σ → List CollectorError → σ → Prop
  | none {state : σ} : Fails surroundings report [] state [] state
  | next {collector : Collector leaf} {alternatives : List (Collector leaf)} {state mid after : σ}
      {error : CollectorError} {errors : List CollectorError}
      (failed : collector.collect surroundings report state = (.error error, mid))
      (rest : Fails surroundings report alternatives mid errors after) :
      Fails surroundings report (collector :: alternatives) state (error :: errors) after

theorem Fails.length (fails : Fails surroundings report alternatives state errors after) :
    errors.length = alternatives.length := by
  induction fails with
  | none => rfl
  | next _ _ ih => rw [List.length_cons, List.length_cons, ih]

theorem firstOf_failed (failed : collector.collect surroundings report state = (.error error, mid)) :
    firstOf surroundings report (collector :: alternatives) state =
      ((firstOf surroundings report alternatives mid).1.mapError (error :: ·),
        (firstOf surroundings report alternatives mid).2) := by
  conv => lhs; unfold firstOf
  rw [bind_apply, failed]
  rfl

theorem Fails.firstOf_eq (fails : Fails surroundings report alternatives state errors after) :
    firstOf surroundings report alternatives state = (.error errors, after) := by
  induction fails with
  | none =>
      unfold firstOf
      rfl
  | next failed _ ih =>
      rw [firstOf_failed failed, ih]
      rfl

theorem Fails.firstOf_delivered {untried : List (Collector leaf)}
    (fails : Fails surroundings report alternatives state errors mid)
    (delivered : collector.collect surroundings report mid = (.ok (), after)) :
    firstOf surroundings report (alternatives ++ collector :: untried) state = (.ok (), after) := by
  induction fails with
  | none =>
      rw [List.nil_append]
      unfold firstOf
      rw [bind_apply, delivered]
      rfl
  | next failed _ ih =>
      rw [List.cons_append, firstOf_failed failed, ih delivered]
      rfl

/-- Either all alternatives fail, or one of them delivers after those in front of it have failed. -/
theorem fails_or_delivered (surroundings : Surroundings leaf (StateM σ)) (report : Report)
    (alternatives : List (Collector leaf)) (state : σ) :
    (∃ errors after, Fails surroundings report alternatives state errors after) ∨
      ∃ tried collector untried errors mid after, alternatives = tried ++ collector :: untried ∧
        Fails surroundings report tried state errors mid ∧
        collector.collect surroundings report mid = (.ok (), after) := by
  induction alternatives generalizing state with
  | nil => exact Or.inl ⟨[], state, .none⟩
  | cons collector alternatives ih =>
      cases tried : collector.collect surroundings report state with
      | mk result mid =>
          cases result with
          | ok => exact Or.inr ⟨[], collector, alternatives, [], state, mid, rfl, .none, tried⟩
          | error error =>
              rcases ih mid with ⟨errors, after, fails⟩ | ⟨front, reached, behind, errors, last, after, rfl, fails, done⟩
              · exact Or.inl ⟨error :: errors, after, .next tried fails⟩
              · have fails := Fails.next tried fails
                exact Or.inr ⟨collector :: front, reached, behind, error :: errors, last, after, rfl, fails, done⟩

theorem collect_fallback (alternatives : List (Collector leaf)) (state : σ) :
    (Collector.fallback alternatives).collect surroundings report state =
      ((firstOf surroundings report alternatives state).1.mapError .allFailed,
        (firstOf surroundings report alternatives state).2) := by
  unfold Collector.collect
  rfl

theorem fallback_eq_error :
    (Collector.fallback alternatives).collect surroundings report state = (.error error, after) ↔
      ∃ errors, error = .allFailed errors ∧ Fails surroundings report alternatives state errors after := by
  rw [collect_fallback]
  constructor
  · intro failed
    rcases fails_or_delivered surroundings report alternatives state with
      ⟨errors, last, fails⟩ | ⟨_, _, _, _, _, _, rfl, fails, done⟩
    · rw [fails.firstOf_eq] at failed
      cases failed
      exact ⟨errors, rfl, fails⟩
    · rw [fails.firstOf_delivered done] at failed
      cases failed
  · rintro ⟨errors, rfl, fails⟩
    rw [fails.firstOf_eq]
    rfl

end Fallback

variable {leaf : Type} {fate : Fate leaf} {report : Report} {collector : Collector leaf}
  {history middle after : List (Event leaf)} {result : Except CollectorError Unit} {error : CollectorError}

/-- A collector that leaves no report out. -/
inductive Collector.Unsampled : Collector leaf → Prop
  | leaf (destination : leaf) : Unsampled (.leaf destination)
  | retry {inner : Collector leaf} (maxRetry : Nat) (initialDelay : Duration) (unsampled : Unsampled inner) :
      Unsampled (.retry maxRetry initialDelay inner)
  | fallback {alternatives : List (Collector leaf)} (unsampled : ∀ collector ∈ alternatives, Unsampled collector) :
      Unsampled (.fallback alternatives)

def Undelivered (history after : List (Event leaf)) : Prop :=
  ∃ events, after = history ++ events ∧ ∀ outcome ∈ outcomes events, outcome ≠ .ok ()

namespace Undelivered

theorem refl (history : List (Event leaf)) : Undelivered history history :=
  ⟨[], (List.append_nil history).symm, List.forall_mem_nil _⟩

theorem trans (first : Undelivered history middle) (second : Undelivered middle after) : Undelivered history after := by
  obtain ⟨earlier, rfl, missed⟩ := first
  obtain ⟨later, rfl, again⟩ := second
  refine ⟨earlier ++ later, List.append_assoc .., ?_⟩
  rw [outcomes, List.filterMap_append]
  exact List.forall_mem_append.mpr ⟨missed, again⟩

theorem called (history : List (Event leaf)) (destination : leaf) (error : CollectorError) :
    Undelivered history (history ++ [.called destination (.error error)]) :=
  ⟨_, rfl, List.forall_mem_singleton.mpr (fun same => by cases same)⟩

theorem slept (history : List (Event leaf)) (span : Duration) : Undelivered history (history ++ [.slept span]) :=
  ⟨_, rfl, List.forall_mem_nil _⟩

end Undelivered

/-- What is done to deliver a report: calls that fail, and if it is delivered, one more that delivers it. -/
inductive Delivers (history : List (Event leaf)) :
    (result : Except CollectorError Unit) → (after : List (Event leaf)) → Prop
  | delivered {before : List (Event leaf)} (destination : leaf) (undelivered : Undelivered history before) :
      Delivers history (.ok ()) (before ++ [.called destination (.ok ())])
  | failed {after : List (Event leaf)} (error : CollectorError) (undelivered : Undelivered history after) :
      Delivers history (.error error) after

theorem Undelivered.delivers (earlier : Undelivered history middle) (delivers : Delivers middle result after) :
    Delivers history result after := by
  cases delivers with
  | delivered destination undelivered => exact .delivered destination (earlier.trans undelivered)
  | failed error undelivered => exact .failed error (earlier.trans undelivered)

theorem Delivers.undelivered (delivers : Delivers history (.error error) after) : Undelivered history after := by
  cases delivers with
  | failed _ undelivered => exact undelivered

def Collector.IsDiligent (fate : Fate leaf) (report : Report) (collector : Collector leaf) : Prop :=
  ∀ history result after, collector.collect fate.surroundings report history = (result, after) →
    Delivers history result after

theorem isDiligent_leaf (destination : leaf) : (Collector.leaf destination).IsDiligent fate report := by
  intro history result after collected
  unfold Collector.collect at collected
  cases collected
  cases answer : fate.deliver history destination report with
  | ok => exact .delivered destination (.refl history)
  | error error => exact .failed error (.called history destination error)

theorem Failing.undelivered {delay : Duration} {attempts later : Nat}
    (failing : Failing fate.surroundings.sleep delay (collector.collect fate.surroundings report) attempts history later
      after) (diligent : collector.IsDiligent fate report) : Undelivered history after := by
  induction failing with
  | none => exact .refl _
  | again failed _ _ ih => exact ((diligent _ _ _ failed).undelivered.trans (.slept _ _)).trans ih

/-- The attempts before the last one have failed, and the last one decides. -/
theorem isDiligent_retry (diligent : collector.IsDiligent fate report) (maxRetry : Nat) (initialDelay : Duration) :
    (Collector.retry maxRetry initialDelay collector).IsDiligent fate report := by
  intro history result after collected
  unfold Collector.collect at collected
  obtain ⟨later, before, tried, remaining, failing, -, last, decides⟩ :=
    retrying_runs fate.surroundings.sleep initialDelay (collector.collect fate.surroundings report) maxRetry 0 history
  rw [collected] at last decides
  have delivers := (failing.undelivered diligent).delivers (diligent _ _ _ last)
  cases decides with
  | delivered | refused => exact delivers
  | exhausted => exact .failed _ delivers.undelivered

theorem Fails.undelivered {alternatives : List (Collector leaf)} {errors : List CollectorError}
    (fails : Fails fate.surroundings report alternatives history errors after)
    (diligent : ∀ collector ∈ alternatives, collector.IsDiligent fate report) : Undelivered history after := by
  induction fails with
  | none => exact .refl _
  | next failed _ ih =>
      obtain ⟨first, others⟩ := List.forall_mem_cons.mp diligent
      exact (first _ _ _ failed).undelivered.trans (ih others)

theorem isDiligent_fallback {alternatives : List (Collector leaf)}
    (diligent : ∀ collector ∈ alternatives, collector.IsDiligent fate report) :
    (Collector.fallback alternatives).IsDiligent fate report := by
  intro history result after collected
  rw [collect_fallback] at collected
  rcases fails_or_delivered fate.surroundings report alternatives history with
    ⟨errors, last, fails⟩ | ⟨tried, reached, untried, errors, mid, last, rfl, fails, done⟩
  · rw [fails.firstOf_eq] at collected
    cases collected
    exact .failed _ (fails.undelivered diligent)
  · rw [fails.firstOf_delivered done] at collected
    cases collected
    obtain ⟨front, back⟩ := List.forall_mem_append.mp diligent
    exact (fails.undelivered front).delivers ((List.forall_mem_cons.mp back).1 _ _ _ done)

/-- Every tree of retries and fallbacks is diligent, by induction on the tree. -/
theorem Collector.Unsampled.isDiligent (unsampled : collector.Unsampled) : collector.IsDiligent fate report := by
  induction unsampled with
  | leaf destination => exact isDiligent_leaf destination
  | retry maxRetry initialDelay _ ih => exact isDiligent_retry ih maxRetry initialDelay
  | fallback _ ih => exact isDiligent_fallback ih

/-- A report is delivered by one call and nothing is done after it, or else no call has delivered it and the collector
fails. A fallback, wherever it stands, fails with one error for each alternative: the one that this alternative gave. -/
theorem delivers_once (fate : Fate leaf) (report : Report) :
    (∀ collector : Collector leaf, collector.Unsampled → ∀ history,
      Delivers history (collector.collect fate.surroundings report history).1
        (collector.collect fate.surroundings report history).2) ∧
    ∀ alternatives history error after,
      (Collector.fallback alternatives).collect fate.surroundings report history = (.error error, after) ↔
        ∃ errors, error = .allFailed errors ∧ errors.length = alternatives.length ∧
          Fails fate.surroundings report alternatives history errors after := by
  refine ⟨fun collector unsampled history => unsampled.isDiligent history _ _ rfl, ?_⟩
  intro alternatives history error after
  rw [fallback_eq_error]
  constructor
  · rintro ⟨errors, rfl, fails⟩
    exact ⟨errors, rfl, fails.length, fails⟩
  · rintro ⟨errors, rfl, -, fails⟩
    exact ⟨errors, rfl, fails⟩

def firstDown : Fate Bool where
  deliver _ second _ := if second then .ok () else .error (.serverError 503)
  draw _ := .zero

/-- A retry of a destination in front of a fallback that has nothing to fall back on. -/
def retriedFirst : List (Collector Bool) := [.retry 1 ⟨0⟩ (.leaf false), .fallback []]

def retriedHistory : List (Event Bool) :=
  [.called false (.error (.serverError 503)), .slept (backoff ⟨0⟩ 0), .called false (.error (.serverError 503))]

theorem retriedFirst_fails (report : Report) :
    Fails firstDown.surroundings report retriedFirst [] [.maxRetryExceeded, .allFailed []] retriedHistory := by
  have nothing (history : List (Event Bool)) : (Collector.fallback []).collect firstDown.surroundings report history =
      (.error (.allFailed []), history) := fallback_eq_error.mpr ⟨[], rfl, .none⟩
  have down (history : List (Event Bool)) : (Collector.leaf false).collect firstDown.surroundings report history =
      (.error (.serverError 503), history ++ [.called false (.error (.serverError 503))]) := by
    unfold Collector.collect
    rfl
  refine .next ?_ (.next (nothing _) .none)
  unfold Collector.collect
  exact (retrying_again (down _) rfl).trans (retrying_decided (down _) (.exhausted rfl rfl))

theorem retriedFirst_unsampled : (Collector.fallback (retriedFirst ++ [.leaf true])).Unsampled := by
  refine .fallback ?_
  simp only [retriedFirst, List.cons_append, List.nil_append, List.forall_mem_cons]
  exact ⟨.retry 1 _ (.leaf false), .fallback (List.forall_mem_nil _), .leaf true, List.forall_mem_nil _⟩

theorem delivers_once_behind_failures :
    (Collector.fallback (retriedFirst ++ [.leaf true])).collect firstDown.surroundings ⟨.ok "", some true⟩ [] =
        (.ok (), retriedHistory ++ [.called true (.ok ())]) ∧
      Delivers [] (.ok ()) (retriedHistory ++ [.called true (.ok ())]) ∧
      (Collector.fallback retriedFirst).collect firstDown.surroundings ⟨.ok "", some true⟩ [] =
        (.error (.allFailed [.maxRetryExceeded, .allFailed []]), retriedHistory) := by
  have fails := retriedFirst_fails ⟨.ok "", some true⟩
  have delivered : (Collector.leaf true).collect firstDown.surroundings ⟨.ok "", some true⟩ retriedHistory =
      (.ok (), retriedHistory ++ [.called true (.ok ())]) := by
    unfold Collector.collect
    rfl
  have collected : (Collector.fallback (retriedFirst ++ [.leaf true])).collect firstDown.surroundings
      ⟨.ok "", some true⟩ [] = (.ok (), retriedHistory ++ [.called true (.ok ())]) := by
    rw [collect_fallback, fails.firstOf_delivered delivered]
    rfl
  obtain ⟨delivers, failing⟩ := delivers_once firstDown ⟨.ok "", some true⟩
  have once := delivers _ retriedFirst_unsampled []
  rw [collected] at once
  exact ⟨collected, once, (failing _ _ _ _).mpr ⟨_, rfl, rfl, fails⟩⟩

end SealedTunnel.Report
