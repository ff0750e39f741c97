import SealedTunnel.Connectivity.Probe

/-!
How a test of a resolver is judged. Each stage comes to something by itself, whatever the deadline; only what is not
finished before the deadline is tried there once more. The first stage that does not come to a good end by the one
deadline of the test decides, and no later one begins.
-/
namespace SealedTunnel.Connectivity

variable {ω ω' α β : Type}

/-- What an action comes to by itself, and what it comes to by a last try at a deadline. -/
structure Conduct (ω α : Type) where
  undisturbed : α → ω → Prop
  lastTry : (deadline : Nat) → α → ω → Prop

/-- There is a deadline only for what is not finished before. -/
inductive Conduct.Ends (conduct : Conduct ω α) (now : ω → Nat) (deadline : Nat) : α → ω → Prop
  | early {value : α} {after : ω} (done : conduct.undisturbed value after) (soon : now after < deadline) :
      Ends conduct now deadline value after
  | last {value : α} {after : ω} (tried : conduct.lastTry deadline value after) (just : now after = deadline) :
      Ends conduct now deadline value after

def Conduct.steady (undisturbed : α → ω → Prop) : Conduct ω α := ⟨undisturbed, fun _ => undisturbed⟩

def Conduct.atOnce (value : α) (world : ω) : Conduct ω α := .steady fun result after => result = value ∧ after = world

def Conduct.map (conduct : Conduct ω α) (outer : α → ω → β × ω') : Conduct ω' β where
  undisturbed value after := ∃ inner world, conduct.undisturbed inner world ∧ outer inner world = (value, after)
  lastTry deadline value after := ∃ inner world, conduct.lastTry deadline inner world ∧ outer inner world = (value, after)

/-- The action ends by the deadline as its conduct says and in no other way; without a result it has used up the time. -/
structure Cut (now : ω → Nat) (deadline : Nat) (conduct : Conduct ω α) (action : Option α × ω) : Prop where
  ended : ∀ value after, action = (some value, after) ↔ conduct.Ends now deadline value after
  late : ∀ after, action = (none, after) → now after = deadline

inductive Ending (now : ω → Nat) (deadline : Nat) (conduct : Conduct ω α) (action : Option α × ω) : Option α → ω → Prop
  | finished {value : α} {after : ω} (ends : conduct.Ends now deadline value after) :
      Ending now deadline conduct action (some value) after
  | late {after : ω} (stopped : action = (none, after)) (spent : now after = deadline)
      (unfinished : ∀ value next, ¬ conduct.Ends now deadline value next) : Ending now deadline conduct action none after

section Cut

variable {now : ω → Nat} {deadline : Nat} {conduct : Conduct ω α} {action : Option α × ω} {result : Option α} {after : ω}

theorem Conduct.Ends.inTime {value : α} (ends : conduct.Ends now deadline value after) : now after ≤ deadline := by
  cases ends with
  | early _ soon => exact Nat.le_of_lt soon
  | last _ just => exact Nat.le_of_eq just

theorem Conduct.ends_steady {undisturbed : α → ω → Prop} {value : α} :
    (steady undisturbed).Ends now deadline value after ↔ undisturbed value after ∧ now after ≤ deadline := by
  constructor
  · intro ends
    refine ⟨?_, ends.inTime⟩
    cases ends with
    | early done => exact done
    | last tried => exact tried
  · rintro ⟨done, inTime⟩
    rcases Nat.lt_or_eq_of_le inTime with soon | just
    · exact .early done soon
    · exact .last done just

theorem cut_atOnce {value : α} {world : ω} (begun : now world ≤ deadline) :
    Cut now deadline (.atOnce value world) (some value, world) where
  ended other after := by
    rw [Conduct.atOnce, Conduct.ends_steady]
    constructor
    · intro same
      cases same
      exact ⟨⟨rfl, rfl⟩, begun⟩
    · rintro ⟨⟨rfl, rfl⟩, -⟩
      rfl
  late after none := by cases none

theorem Cut.map {now' : ω' → Nat} {outer : α → ω → β × ω'} {action' : Option β × ω'}
    (cut : Cut now deadline conduct action) (rest : ω → ω')
    (clock : ∀ value after, conduct.undisturbed value after ∨ conduct.lastTry deadline value after →
      now' (outer value after).2 = now after)
    (spare : ∀ after, now' (rest after) = now after)
    (ended : ∀ value after, action = (some value, after) → action' = (some (outer value after).1, (outer value after).2))
    (stopped : ∀ after, action = (none, after) → action' = (none, rest after)) :
    Cut now' deadline (conduct.map outer) action' := by
  -- Both clocks show the same after whatever the conduct allows, so that an end in time is one for both.
  have complete : ∀ value after, conduct.Ends now deadline value after →
      action' = (some (outer value after).1, (outer value after).2) := by
    intro value after ends
    exact ended value after ((cut.ended value after).mpr ends)
  constructor
  · intro value after
    constructor
    · intro came
      cases inner : action with
      | mk result world =>
          cases result with
          | none =>
              rw [stopped world inner] at came
              cases came
          | some found =>
              rw [ended found world inner] at came
              cases came
              cases (cut.ended found world).mp inner with
              | early done soon => exact .early ⟨found, world, done, rfl⟩ (clock found world (.inl done) ▸ soon)
              | last tried just => exact .last ⟨found, world, tried, rfl⟩ ((clock found world (.inr tried)).trans just)
    · intro ends
      cases ends with
      | early done soon =>
          obtain ⟨inner, world, done, made⟩ := done
          have same := clock inner world (.inl done)
          rw [made] at same
          rw [complete inner world (.early done (same ▸ soon)), made]
      | last tried just =>
          obtain ⟨inner, world, tried, made⟩ := tried
          have same := clock inner world (.inr tried)
          rw [made] at same
          rw [complete inner world (.last tried (same.symm.trans just)), made]
  · intro after came
    cases inner : action with
    | mk result world =>
        cases result with
        | some found =>
            rw [ended found world inner] at came
            cases came
        | none =>
            rw [stopped world inner] at came
            cases came
            exact (spare world).trans (cut.late world inner)

theorem Cut.ending (cut : Cut now deadline conduct action) :
    action = (result, after) ↔ Ending now deadline conduct action result after := by
  constructor
  · intro came
    cases result with
    | some value => exact .finished ((cut.ended value after).mp came)
    | none =>
        refine .late came (cut.late after came) ?_
        intro value next ends
        have other := (cut.ended value next).mpr ends
        rw [came] at other
        cases other
  · intro ending
    cases ending with
    | finished ends => exact (cut.ended _ _).mpr ends
    | late stopped => exact stopped

theorem Ending.inTime (ending : Ending now deadline conduct action result after) : now after ≤ deadline := by
  cases ending with
  | finished ends => exact ends.inTime
  | late _ spent => exact Nat.le_of_eq spent

end Cut

structure Conducts (ω : Type) where
  connect : ω → Conduct ω (Except TunnelError Unit)
  send : Bytes → ω → Conduct ω (Except IoError Unit)
  receive : ω → Conduct ω (Except IoError Bytes)

/-- The name that a report gives to an error. -/
inductive Named : IoError → String → Prop
  | code {error : IoError} {code : Int} (coded : error.osCode? = some code) : Named error (Posix.errnoName code)
  | timedOut {error : IoError} (uncoded : error.osCode? = none) (late : error.kind = .timedOut) : Named error "ETIMEDOUT"
  | nameless {error : IoError} (uncoded : error.osCode? = none) (other : error.kind ≠ .timedOut) : Named error ""

/-- How the outcome of a stage makes the test fail: by an error, or by the deadline. -/
inductive Fails (stage : Stage) (limit : Duration) : Option (Except IoError α) → Failure → Prop
  | error {error : IoError} {name : String} (named : Named error name) :
      Fails stage limit (some (.error error)) ⟨stage, name, error⟩
  | late : Fails stage limit none ⟨stage, "ETIMEDOUT", .ofFault (.timeout limit)⟩

section Judged

variable (route : Route ω) (conducts : Conducts ω) (query : Bytes) (deadline : Nat) (limit : Duration)

def Connects : ω → Option (Except TunnelError Unit) → ω → Prop :=
  fun world => Ending route.now deadline (conducts.connect world) (route.connect deadline world)

def Sends : ω → Option (Except IoError Unit) → ω → Prop :=
  fun world => Ending route.now deadline (conducts.send query world) (route.send query deadline world)

def Receives : ω → Option (Except IoError Bytes) → ω → Prop :=
  fun world => Ending route.now deadline (conducts.receive world) (route.receive deadline world)

/-- What a test is judged to have shown, by the first stage that does not go well, and the world after that stage. -/
inductive Judged (world : ω) : Except TunnelError (Except Failure Unit) → ω → Prop
  | misconfigured {error : TunnelError} {after : ω}
      (connects : Connects route conducts deadline world (some (.error error)) after) (config : error.isConfigError) :
      Judged world (.error error) after
  | unconnected {result : Option (Except TunnelError Unit)} {failure : Failure} {after : ω}
      (connects : Connects route conducts deadline world result after)
      (notConfig : ∀ error, result = some (.error error) → ¬ error.isConfigError)
      (fails : Fails .connect limit (result.map (·.mapError TunnelError.toIoError)) failure) :
      Judged world (.ok (.error failure)) after
  | unsent {result : Option (Except IoError Unit)} {failure : Failure} {connected after : ω}
      (connects : Connects route conducts deadline world (some (.ok ())) connected)
      (sends : Sends route conducts query deadline connected result after) (fails : Fails .send limit result failure) :
      Judged world (.ok (.error failure)) after
  | unanswered {result : Option (Except IoError Bytes)} {failure : Failure} {connected sent after : ω}
      (connects : Connects route conducts deadline world (some (.ok ())) connected)
      (sends : Sends route conducts query deadline connected (some (.ok ())) sent)
      (receives : Receives route conducts deadline sent result after) (fails : Fails .receive limit result failure) :
      Judged world (.ok (.error failure)) after
  | garbled {bytes : Bytes} {fault : Dns.MessageFault} {connected sent after : ω}
      (connects : Connects route conducts deadline world (some (.ok ())) connected)
      (sends : Sends route conducts query deadline connected (some (.ok ())) sent)
      (receives : Receives route conducts deadline sent (some (.ok bytes)) after)
      (unparsed : Dns.Message.parse bytes = .error fault) :
      Judged world (.ok (.error ⟨.receive, "", .note .invalidData fault.message⟩)) after
  | answered {bytes : Bytes} {message : Dns.Message} {connected sent after : ω}
      (connects : Connects route conducts deadline world (some (.ok ())) connected)
      (sends : Sends route conducts query deadline connected (some (.ok ())) sent)
      (receives : Receives route conducts deadline sent (some (.ok bytes)) after)
      (parsed : Dns.Message.parse bytes = .ok message) :
      Judged world (.ok (.ok ())) after

end Judged

theorem named_iff {error : IoError} {name : String} : Named error name ↔ error.posixName = name := by
  unfold IoError.posixName
  constructor
  · intro named
    cases named with
    | code coded => rw [coded]
    | timedOut uncoded late =>
        rw [uncoded]
        exact if_pos late
    | nameless uncoded other =>
        rw [uncoded]
        exact if_neg other
  · rintro rfl
    cases coded : error.osCode? with
    | some code => exact .code coded
    | none =>
        dsimp only
        split
        · rename_i late
          exact .timedOut coded late
        · rename_i other
          exact .nameless coded other

theorem fails_iff {stage : Stage} {limit : Duration} {result : Option (Except IoError α)} {failure : Failure} :
    Fails stage limit result failure ↔ stageResult stage limit result = .error failure := by
  constructor
  · intro fails
    cases fails with
    | error named => rw [stageResult, Failure.ofError, named_iff.mp named]
    | late => rfl
  · intro failed
    match result with
    | none =>
        cases failed
        exact .late
    | some (.error error) =>
        cases failed
        exact .error (named_iff.mpr rfl)
    | some (.ok value) => cases failed

theorem stageResult_ok {stage : Stage} {limit : Duration} {result : Option (Except IoError α)} {value : α} :
    stageResult stage limit result = .ok value ↔ result = some (.ok value) := by
  match result with
  | none => simp [stageResult]
  | some (.error error) => simp [stageResult]
  | some (.ok other) => simp [stageResult]

structure Cuts (route : Route ω) (conducts : Conducts ω) (world : ω) : Prop where
  connect : ∀ deadline, route.now world ≤ deadline →
    Cut route.now deadline (conducts.connect world) (route.connect deadline world)
  send : ∀ query deadline other, route.now other ≤ deadline →
    Cut route.now deadline (conducts.send query other) (route.send query deadline other)
  receive : ∀ deadline other, route.now other ≤ deadline →
    Cut route.now deadline (conducts.receive other) (route.receive deadline other)

section Run

variable {route : Route ω} {conducts : Conducts ω} {query : Bytes} {deadline : Nat} {limit : Duration}
  {world connected sent after : ω}

theorem run_failed {result : Option (Except TunnelError Unit)} {failure : Failure}
    (made : route.connect deadline world = (result, connected))
    (notConfig : ∀ error, result = some (.error error) → ¬ error.isConfigError)
    (failed : stageResult .connect limit (result.map (·.mapError TunnelError.toIoError)) = .error failure) :
    run route query deadline limit world = (.ok (.error failure), connected) := by
  rw [run, made]
  match result with
  | none =>
      cases failed
      rfl
  | some (.error error) =>
      cases failed
      exact if_neg (notConfig error rfl)
  | some (.ok ()) => cases failed

theorem run_connected (made : route.connect deadline world = (some (.ok ()), connected)) :
    run route query deadline limit world =
      (.ok (exchange route query deadline limit connected).1, (exchange route query deadline limit connected).2) := by
  rw [run, made]

theorem exchange_unsent {result : Option (Except IoError Unit)} {failure : Failure}
    (handed : route.send query deadline connected = (result, after))
    (failed : stageResult .send limit result = .error failure) :
    exchange route query deadline limit connected = (.error failure, after) := by
  rw [exchange, handed]
  dsimp only
  rw [failed]

theorem exchange_sent {result : Option (Except IoError Bytes)}
    (handed : route.send query deadline connected = (some (.ok ()), sent))
    (came : route.receive deadline sent = (result, after)) :
    exchange route query deadline limit connected =
      (stageResult .receive limit (result.map (·.bind checkAnswer)), after) := by
  rw [exchange, handed]
  change (stageResult .receive limit ((route.receive deadline sent).1.map (·.bind checkAnswer)),
    (route.receive deadline sent).2) = _
  rw [came]

theorem stageResult_parsed {bytes : Bytes} {message : Dns.Message} (parsed : Dns.Message.parse bytes = .ok message) :
    stageResult .receive limit (some (checkAnswer bytes)) = .ok () := by
  rw [checkAnswer, parsed, stageResult]

theorem stageResult_unparsed {bytes : Bytes} {fault : Dns.MessageFault}
    (unparsed : Dns.Message.parse bytes = .error fault) :
    stageResult .receive limit (some (checkAnswer bytes)) = .error ⟨.receive, "", .note .invalidData fault.message⟩ := by
  have nameless : Named (.note .invalidData fault.message) "" := .nameless rfl nofun
  rw [checkAnswer, unparsed, stageResult, Failure.ofError, named_iff.mp nameless]

theorem judged_exchange (cuts : Cuts route conducts world)
    (connects : Connects route conducts deadline world (some (.ok ())) connected) :
    Judged route conducts query deadline limit world (.ok (exchange route query deadline limit connected).1)
      (exchange route query deadline limit connected).2 := by
  cases handed : route.send query deadline connected with
  | mk result sent =>
      have sends : Sends route conducts query deadline connected result sent :=
        (cuts.send query deadline connected connects.inTime).ending.mp handed
      cases stage : stageResult .send limit result with
      | error failure =>
          rw [exchange_unsent handed stage]
          exact .unsent connects sends (fails_iff.mpr stage)
      | ok =>
          cases stageResult_ok.mp stage
          cases came : route.receive deadline sent with
          | mk result after =>
              have receives : Receives route conducts deadline sent result after :=
                (cuts.receive deadline sent sends.inTime).ending.mp came
              rw [exchange_sent handed came]
              dsimp only
              match result with
              | none => exact .unanswered connects sends receives .late
              | some (.error error) => exact .unanswered connects sends receives (fails_iff.mpr rfl)
              | some (.ok bytes) =>
                  cases read : Dns.Message.parse bytes with
                  | error fault =>
                      dsimp only [Option.map_some, Except.bind]
                      rw [stageResult_unparsed read]
                      exact .garbled connects sends receives read
                  | ok message =>
                      dsimp only [Option.map_some, Except.bind]
                      rw [stageResult_parsed read]
                      exact .answered connects sends receives read

theorem run_judged {verdict : Except TunnelError (Except Failure Unit)} (cuts : Cuts route conducts world)
    (begun : route.now world ≤ deadline) : run route query deadline limit world = (verdict, after) ↔
      Judged route conducts query deadline limit world verdict after := by
  have connecting := cuts.connect deadline begun
  constructor
  · intro ran
    cases made : route.connect deadline world with
    | mk result connected =>
        have connects : Connects route conducts deadline world result connected := connecting.ending.mp made
        match result with
        | none =>
            rw [run_failed made (fun _ none => by cases none) rfl] at ran
            cases ran
            exact .unconnected connects (fun _ none => by cases none) .late
        | some (.error error) =>
            by_cases config : error.isConfigError
            · rw [run, made] at ran
              cases (if_pos config).symm.trans ran
              exact .misconfigured connects config
            · have other : ∀ same : TunnelError, some (Except.error error : Except TunnelError Unit) = some (.error same) →
                  ¬ same.isConfigError := by
                intro same found
                cases found
                exact config
              rw [run_failed made other rfl] at ran
              cases ran
              exact .unconnected connects other (fails_iff.mpr rfl)
        | some (.ok ()) =>
            rw [run_connected made] at ran
            cases ran
            exact judged_exchange cuts connects
  · intro judged
    cases judged with
    | misconfigured connects config =>
        rw [run, connecting.ending.mpr connects]
        exact if_pos config
    | unconnected connects notConfig fails =>
        exact run_failed (connecting.ending.mpr connects) notConfig (fails_iff.mp fails)
    | unsent connects sends fails =>
        have handed := (cuts.send query deadline _ connects.inTime).ending.mpr sends
        rw [run_connected (connecting.ending.mpr connects), exchange_unsent handed (fails_iff.mp fails)]
    | @unanswered result failure _ _ _ connects sends receives fails =>
        have handed := (cuts.send query deadline _ connects.inTime).ending.mpr sends
        have came := (cuts.receive deadline _ sends.inTime).ending.mpr receives
        have failed : stageResult .receive limit (result.map (·.bind checkAnswer)) = .error failure := by
          cases fails with
          | error named => exact fails_iff.mp (.error named)
          | late => exact fails_iff.mp .late
        rw [run_connected (connecting.ending.mpr connects), exchange_sent handed came, failed]
    | garbled connects sends receives unparsed =>
        have handed := (cuts.send query deadline _ connects.inTime).ending.mpr sends
        have came := (cuts.receive deadline _ sends.inTime).ending.mpr receives
        rw [run_connected (connecting.ending.mpr connects), exchange_sent handed came]
        dsimp only [Option.map_some, Except.bind]
        rw [stageResult_unparsed unparsed]
    | answered connects sends receives parsed =>
        have handed := (cuts.send query deadline _ connects.inTime).ending.mpr sends
        have came := (cuts.receive deadline _ sends.inTime).ending.mpr receives
        rw [run_connected (connecting.ending.mpr connects), exchange_sent handed came]
        dsimp only [Option.map_some, Except.bind]
        rw [stageResult_parsed parsed]

def Result.ofRun (duration : Nat) : Except Failure Unit → Result
  | .ok _ => ⟨duration, none⟩
  | .error failure => ⟨duration, some failure⟩

/-- A test fails at once, with nothing done, if there is no query for the domain. Otherwise it comes to what it is judged
to by the deadline that is set at its start. -/
def Classifies (route : Route ω) (conducts : Conducts ω) (id : UInt16) (domain : String) (limit : Nat) (world : ω) :
    Prop :=
  ∀ outcome after, probe route id domain limit world = (outcome, after) ↔
    (∃ fault, Dns.buildQuery id domain = .error fault ∧ outcome = .error (.fault fault) ∧ after = world) ∨
      ∃ query verdict, Dns.buildQuery id domain = .ok query ∧
        Judged route conducts query (route.now world + limit) (.ofMillis limit) world verdict after ∧
        outcome = verdict.map (Result.ofRun (route.now after - route.now world))

theorem probe_unasked {id : UInt16} {domain : String} {fault : Fault} (refused : Dns.buildQuery id domain = .error fault)
    (limit : Nat) : probe route id domain limit world = (.error (.fault fault), world) := by
  rw [probe, refused]

theorem probe_asked {id : UInt16} {domain : String} (built : Dns.buildQuery id domain = .ok query) (limit : Nat)
    {verdict : Except TunnelError (Except Failure Unit)}
    (ran : run route query (route.now world + limit) (.ofMillis limit) world = (verdict, after)) :
    probe route id domain limit world = (verdict.map (Result.ofRun (route.now after - route.now world)), after) := by
  rw [probe, built]
  dsimp only
  rw [ran]
  match verdict with
  | .error error => rfl
  | .ok (.ok ()) => rfl
  | .ok (.error failure) => rfl

theorem Cuts.classifies (cuts : Cuts route conducts world) (id : UInt16) (domain : String) (limit : Nat) :
    Classifies route conducts id domain limit world := by
  intro outcome after
  cases built : Dns.buildQuery id domain with
  | error fault =>
      rw [probe_unasked built]
      constructor
      · intro same
        cases same
        exact Or.inl ⟨fault, rfl, rfl, rfl⟩
      · rintro (⟨_, same, rfl, rfl⟩ | ⟨_, _, none, -⟩)
        · cases same
          rfl
        · cases none
  | ok query =>
      cases ran : run route query (route.now world + limit) (.ofMillis limit) world with
      | mk verdict last =>
          rw [probe_asked built limit ran]
          constructor
          · intro same
            cases same
            exact Or.inr ⟨query, verdict, rfl, (run_judged cuts (Nat.le_add_right _ _)).mp ran, rfl⟩
          · rintro (⟨_, none, -⟩ | ⟨_, other, same, judged, rfl⟩)
            · cases none
            · cases same
              have again := (run_judged cuts (Nat.le_add_right _ _)).mpr judged
              cases ran.symm.trans again
              rfl

end Run
end SealedTunnel.Connectivity
