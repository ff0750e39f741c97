import SealedTunnel.Connectivity.Route
import SealedTunnel.Proofs.Connectivity.Messages
import SealedTunnel.Proofs.Connectivity.Stages

namespace SealedTunnel.Connectivity

open Timeline (ComesTo Regular Resumes Timeless drive driveCall now ofCall)

section Drive

variable {μ γ α : Type} [Timeline γ] {deadline : Nat}

/-- What is done with waits in between comes to something by itself, or at the deadline when it is tried once more. -/
def Conduct.withWaits (comes : (between : Stall → γ → γ → Prop) → α → γ → Prop) : Conduct γ α :=
  ⟨comes (Resumes none), fun deadline => comes (Resumes (some deadline))⟩

theorem Conduct.withWaits_congr {comes same : (Stall → γ → γ → Prop) → α → γ → Prop}
    (iff : ∀ between value after, comes between value after ↔ same between value after) : withWaits comes = withWaits same := by
  have equal : comes = same := funext fun between => funext fun value => funext fun after =>
    propext (iff between value after)
  rw [equal]

theorem cut_drive [Regular γ] {poll : μ → γ → Poll α × μ × γ} {state : μ} {line : γ} (timeless : Timeless poll)
    (begun : now line ≤ deadline) : Cut now deadline (.withWaits fun between => ComesTo between poll state line)
      ((drive poll deadline state line).1, (drive poll deadline state line).2.2) := by
  constructor
  · intro value after
    constructor
    · intro came
      obtain ⟨result, rfl⟩ := Prod.mk.inj came
      have run := Timeline.drive_eq_some.mp (Prod.ext result rfl)
      rcases Nat.lt_or_eq_of_le (run.now_le timeless begun).2 with soon | just
      · exact .early ⟨_, Timeline.course_iff_tries.mp (run.course timeless soon)⟩ soon
      · exact .last ⟨_, Timeline.driven_iff_tries.mp run⟩ just
    · intro ends
      cases ends with
      | early done soon =>
          obtain ⟨last, tries⟩ := done
          have course := Timeline.course_iff_tries.mpr tries
          rw [Timeline.drive_eq_some.mpr (course.driven timeless soon)]
      | last tried =>
          obtain ⟨last, tries⟩ := tried
          rw [Timeline.drive_eq_some.mpr (Timeline.driven_iff_tries.mpr tries)]
  · intro after came
    obtain ⟨result, rfl⟩ := Prod.mk.inj came
    exact Timeline.now_drive_none timeless begun (Prod.ext result rfl)

theorem cut_driveCall [Regular γ] {call : γ → Poll α × γ} {line : γ} (timeless : ∀ line, now (call line).2 = now line)
    (begun : now line ≤ deadline) :
    Cut now deadline (.withWaits fun between => ComesTo between (ofCall call) () line) (driveCall call deadline line) :=
  cut_drive (fun _ => timeless) begun

end Drive

section Tries

variable {γ κ : Type} [Timeline γ] [ByteSink γ] [ByteSource γ] [InstantStream γ] [Timeline κ] [Carrier κ]
  [InstantCarrier κ]

theorem timeless_pollSend : Timeless (pollSend : Sending → γ → _) := by
  intro sending line
  cases sending with
  | flushing => exact InstantStream.now_flush line
  | writing rest =>
      have drained := (drain_behaves (behaves_instant (now line)) trivial .stuck line rest rfl).1
      unfold pollSend
      dsimp only
      split
      · rename_i came
        rw [came] at drained
        exact drained
      · rename_i came
        rw [came] at drained
        exact drained
      · rename_i came
        rw [came] at drained
        exact (InstantStream.now_flush _).trans drained

theorem now_pollExactly (early : IoError) (needed : Nat) (read : Bytes) (line : γ) :
    now (pollExactly early needed read line).2.2 = now line := by
  have moves : ∀ {line next : γ} {room : Nat} {answer : Poll (Except IoError Bytes)},
      ByteSource.read line room = (answer, next) → now next = now line := by
    intro line next room answer came
    have same := InstantStream.now_read line room
    rwa [came] at same
  fun_induction pollExactly early needed read line with
  | case1 => rfl
  | case2 _ _ _ _ _ came | case3 _ _ _ _ _ came | case4 _ _ _ _ came => exact moves came
  | case5 _ _ _ _ _ _ came ih => exact ih.trans (moves came)

theorem timeless_pollReceive : Timeless (pollReceive : Receiving → γ → _) := by
  intro receiving line
  cases receiving with
  | body size read => exact now_pollExactly _ _ _ _
  | length read =>
      have same := now_pollExactly (.bare .unexpectedEof) 2 read line
      unfold pollReceive
      dsimp only
      split
      · rename_i came
        rwa [came] at same
      · rename_i came
        rwa [came] at same
      · rename_i came
        rw [came] at same
        exact (now_pollExactly _ _ _ _).trans same

end Tries

/-- An access to a site is cut off at the deadline, and a connection shows the time at its site. -/
structure Access.Punctual {ι γ : Type} [Timeline γ] (access : Access ι γ) (connects : ι → Conduct ι (Except TunnelError γ)) :
    Prop where
  cut : ∀ deadline site, access.now site ≤ deadline → Cut access.now deadline (connects site) (access.connect deadline site)
  shows : ∀ site connection after, (connects site).undisturbed (.ok connection) after →
    Timeline.now connection = access.now after
  showsLast : ∀ deadline site connection after, (connects site).lastTry deadline (.ok connection) after →
    Timeline.now connection = access.now after

namespace Journey

variable {ι γ α : Type} {access : Access ι γ} {connects : ι → Conduct ι (Except TunnelError γ)} {deadline : Nat}

def reached (journey : Journey ι γ) : Except TunnelError γ → ι → Except TunnelError Unit × Journey ι γ
  | .error error, site => (.error error, { journey with site })
  | .ok connection, site => (.ok (), ⟨site, some connection⟩)

def connecting (connects : ι → Conduct ι (Except TunnelError γ)) (journey : Journey ι γ) :
    Conduct (Journey ι γ) (Except TunnelError Unit) :=
  (connects journey.site).map journey.reached

def acting (acts : γ → Conduct γ (Except IoError α)) (journey : Journey ι γ) : Conduct (Journey ι γ) (Except IoError α) :=
  match journey.connection with
  | none => .atOnce (.error (.bare .notConnected)) journey
  | some connection => (acts connection).map fun result line => (result, { journey with connection := some line })

variable [Timeline γ]

theorem cut_connect (punctual : access.Punctual connects) (site : ι) (begun : access.now site ≤ deadline) :
    Cut (clock access) deadline (connecting connects (.ofSite site)) (connect access deadline (.ofSite site)) := by
  refine (punctual.cut deadline site begun).map Journey.ofSite ?_ (fun _ => rfl) ?_ ?_
  · -- Only a connection brings a clock of its own.
    intro value after came
    cases value with
    | error => rfl
    | ok connection =>
        rcases came with done | tried
        · exact punctual.shows site connection after done
        · exact punctual.showsLast deadline site connection after tried
  · intro value after made
    unfold connect ofSite
    dsimp only
    rw [made]
    cases value <;> rfl
  · intro after made
    unfold connect ofSite
    dsimp only
    rw [made]

theorem cut_act {acts : γ → Conduct γ (Except IoError α)} {action : γ → Option (Except IoError α) × γ}
    (cut : ∀ connection, now connection ≤ deadline → Cut now deadline (acts connection) (action connection))
    (journey : Journey ι γ) (begun : journey.clock access ≤ deadline) :
    Cut (clock access) deadline (acting acts journey) (journey.act action) := by
  obtain ⟨site, connection⟩ := journey
  cases connection with
  | none => exact cut_atOnce begun
  | some connection =>
      refine (cut connection begun).map (fun line => ⟨site, some line⟩) (fun _ _ _ => rfl) (fun _ => rfl) ?_ ?_
      · intro value after done
        simp only [act, done]
      · intro after stopped
        simp only [act, stopped]

end Journey

section Stream

variable {ι γ : Type} [Timeline γ] [ByteSink γ] [ByteSource γ]

def streamConducts (connects : ι → Conduct ι (Except TunnelError γ)) : Conducts (Journey ι γ) where
  connect := Journey.connecting connects
  send query := Journey.acting fun line => .withWaits fun between => SendsStream between query line
  receive := Journey.acting fun line => .withWaits fun between => ReceivesStream between line

variable [InstantStream γ] {access : Access ι γ} {connects : ι → Conduct ι (Except TunnelError γ)}

theorem cuts_streamRoute (punctual : access.Punctual connects) (site : ι) :
    Cuts (streamRoute access) (streamConducts connects) (.ofSite site) where
  connect _ begun := Journey.cut_connect punctual site begun
  send query deadline other begun := by
    refine Journey.cut_act (fun line begun => ?_) other begun
    by_cases long : query.length > longestMessage
    · have refused : frame query = .error (.note .invalidInput "DNS message too long") := if_pos long
      rw [Conduct.withWaits_congr fun _ _ _ => sendsStream_tooLong long]
      simp only [refused]
      exact cut_atOnce begun
    · have framed : frame query = .ok (Bytes.ofNatBE 2 query.length ++ query) := if_neg long
      rw [Conduct.withWaits_congr fun _ _ _ => sendsStream_framed (Nat.not_lt.mp long)]
      simp only [framed]
      exact cut_drive timeless_pollSend begun
  receive deadline other begun := by
    have cut : ∀ line : γ, now line ≤ deadline → Cut now deadline (.withWaits fun between => ReceivesStream between line)
        ((drive pollReceive deadline (.length []) line).1, (drive pollReceive deadline (.length []) line).2.2) := by
      intro line begun
      rw [Conduct.withWaits_congr fun _ _ _ => receivesStream_iff InstantStream.read_le]
      exact cut_drive timeless_pollReceive begun
    exact Journey.cut_act cut other begun

end Stream

section Datagrams

variable {ι κ : Type} [Timeline κ] [Carrier κ]

def datagramConducts (connects : ι → Conduct ι (Except TunnelError κ)) : Conducts (Journey ι κ) where
  connect := Journey.connecting connects
  send query := Journey.acting fun carrier => .withWaits fun between => SendsDatagram between query carrier
  receive := Journey.acting fun carrier => .withWaits fun between => ReceivesDatagram between carrier

variable [InstantCarrier κ] {access : Access ι κ} {connects : ι → Conduct ι (Except TunnelError κ)}

theorem cuts_datagramRoute (punctual : access.Punctual connects) (site : ι) :
    Cuts (datagramRoute access) (datagramConducts connects) (.ofSite site) where
  connect _ begun := Journey.cut_connect punctual site begun
  send query deadline other begun := by
    refine Journey.cut_act (fun carrier begun => ?_) other begun
    have same := InstantCarrier.now_wrap carrier query
    cases wrapped : Carrier.wrap carrier query with
    | mk packet ready =>
        rw [wrapped] at same
        have still : now ready ≤ deadline := Nat.le_trans (Nat.le_of_eq same) begun
        cases packet with
        | error error =>
            rw [Conduct.withWaits_congr fun _ _ _ => sendsDatagram_unwrapped wrapped]
            exact cut_atOnce still
        | ok packet =>
            rw [Conduct.withWaits_congr fun _ _ _ => sendsDatagram_wrapped wrapped]
            exact cut_driveCall (fun carrier => InstantCarrier.now_send carrier packet) still
  receive deadline other begun := by
    have timeless : ∀ carrier : κ, now (pollReceiveDatagram carrier).2 = now carrier :=
      fun carrier => InstantCarrier.now_receive carrier datagramRoom
    have cut : ∀ carrier : κ, now carrier ≤ deadline →
        Cut now deadline (.withWaits fun between => ReceivesDatagram between carrier)
          (driveCall pollReceiveDatagram deadline carrier) := by
      intro carrier begun
      rw [Conduct.withWaits_congr fun _ _ _ => receivesDatagram_iff]
      exact cut_driveCall timeless begun
    exact Journey.cut_act cut other begun

end Datagrams
end SealedTunnel.Connectivity
