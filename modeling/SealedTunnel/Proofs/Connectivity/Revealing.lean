import SealedTunnel.Proofs.Connectivity.Candour
import SealedTunnel.Proofs.Connectivity.Sites

/-!
A test of a resolver shows what the connection raises, at the stage at which it is raised: no stage after it begins, and no
stage before it has failed.
-/
namespace SealedTunnel

/-- The errors that are still to come from a connection: of sending, and of receiving. -/
structure Ledgers (γ : Type) where
  sends : γ → List IoError
  receives : γ → List IoError

namespace Connectivity

open Scripted (Site)

variable {ι γ δ : Type}

/-- What a test does on a connection tells the errors of sending, unless they are spared, and of receiving. The connection
may be primed to begin with, and is settled once the query is sent. -/
structure Reveals (route : Route (Journey ι δ)) (ledgers : Ledgers δ) (spared : IoError → Prop) (primed settled : δ → Prop) :
    Prop where
  send : ∀ {query : Bytes} {deadline : Nat} {site : ι} {connection : δ} {result : Option (Except IoError Unit)}
    {after : Journey ι δ}, primed connection → route.send query deadline ⟨site, some connection⟩ = (result, after) →
      ∃ left, after = ⟨site, some left⟩ ∧
        Shows ledgers.sends ledgers.receives spared (failureOf result) connection left ∧ (result = some (.ok ()) → settled left)
  receive : ∀ {deadline : Nat} {site : ι} {connection : δ} {result : Option (Except IoError Bytes)} {after : Journey ι δ},
    settled connection → route.receive deadline ⟨site, some connection⟩ = (result, after) →
      ∃ left, after = ⟨site, some left⟩ ∧
        Shows ledgers.receives ledgers.sends (fun _ => False) (failureOf result) connection left

theorem frame_ne_nil {message framed : Bytes} (made : frame message = .ok framed) : framed ≠ [] := by
  unfold frame at made
  split at made
  · cases made
  · cases made
    intro none
    have short := congrArg List.length (List.append_eq_nil_iff.mp none).1
    rw [Bytes.length_ofNatBE] at short
    cases short

theorem reveals_streamRoute [Timeline γ] [ByteSink γ] [ByteSource γ] {sends receives : γ → List IoError}
    {primed settled : γ → Prop} (candid : CandidStream sends receives primed settled) (access : Access ι γ) :
    Reveals (streamRoute access) ⟨sends, receives⟩ (·.kind = .interrupted) primed settled where
  send {query deadline site connection result after} ready sent := by
    unfold streamRoute Journey.act at sent
    dsimp only at sent
    cases framed : frame query with
    | error error =>
        rw [framed] at sent
        cases sent
        exact ⟨connection, rfl, .refl _ _ _, nofun⟩
    | ok bytes =>
        rw [framed] at sent
        cases sent
        obtain ⟨shown, rested⟩ := (pollSend_obeys candid).drive (Or.inr ⟨ready, bytes, rfl, frame_ne_nil framed⟩) rfl
        exact ⟨_, rfl, shown, fun done => rested (Option.isSome_iff_exists.mpr ⟨_, done⟩)⟩
  receive {deadline site connection result after} rested came := by
    unfold streamRoute Journey.act at came
    dsimp only at came
    cases came
    exact ⟨_, rfl, ((pollReceive_obeys candid).drive rested rfl).1⟩

theorem reveals_datagramRoute [Timeline γ] [Carrier γ] {sends receives : γ → List TunnelError}
    (candid : CandidCarrier sends receives) (access : Access ι γ) :
    Reveals (datagramRoute access) ⟨explained sends, explained receives⟩ (fun _ => False) (fun _ => True)
      fun _ => True where
  send {query deadline site connection result after} _ sent := by
    have kept := candid.wrap connection query
    unfold datagramRoute Journey.act at sent
    dsimp only at sent
    cases wrapped : Carrier.wrap connection query with
    | mk packet carrier =>
        rw [wrapped] at sent kept
        have shown : Shows sends receives (fun _ => False) none connection carrier := .of_eq kept.1 kept.2
        have before := shown.map TunnelError.toIoError
        cases packet with
        | error error =>
            cases sent
            exact ⟨_, rfl, before.trans (.refl _ _ _), fun _ => trivial⟩
        | ok packet =>
            obtain ⟨rfl, rfl⟩ := Prod.mk.inj sent
            exact ⟨_, rfl, before.trans ((pollSendDatagram_obeys candid packet).driveCall trivial rfl).1, fun _ => trivial⟩
  receive {deadline site connection result after} _ came := by
    obtain ⟨rfl, rfl⟩ := Prod.mk.inj came
    exact ⟨_, rfl, ((pollReceiveDatagram_obeys candid).driveCall trivial rfl).1⟩

theorem stageResult_failed {α : Type} {result : Option (Except IoError α)} {error : IoError}
    (failed : failureOf result = some error) (stage : Stage) (limit : Duration) :
    stageResult stage limit result = .error (.ofError stage error) := by
  match result with
  | none => cases failed
  | some (.error error) =>
      cases failed
      rfl
  | some (.ok value) => cases failed

theorem failureOf_bind {α β : Type} {result : Option (Except IoError α)} {error : IoError}
    (failed : failureOf result = some error) (next : α → Except IoError β) :
    failureOf (result.map (·.bind next)) = some error := by
  match result with
  | none => cases failed
  | some (.error error) => exact failed
  | some (.ok value) => cases failed

section Test

variable {route : Route (Journey ι δ)} {ledgers : Ledgers δ} {spared : IoError → Prop} {primed settled : δ → Prop}

/-- What is raised while the messages are exchanged decides the test: no error of another stage comes before it. -/
theorem Reveals.exchange (reveals : Reveals route ledgers spared primed settled) {query : Bytes} {deadline : Nat}
    {limit : Duration} {site : ι} {connection : δ} {verdict : Except Failure Unit} {after : Journey ι δ}
    (ready : primed connection) (ran : exchange route query deadline limit ⟨site, some connection⟩ = (verdict, after)) :
    ∃ left, after = ⟨site, some left⟩ ∧
      (∀ error, Raised (ledgers.sends connection) (ledgers.sends left) error → ¬ spared error →
        verdict = .error (.ofError .send error)) ∧
      ∀ error, Raised (ledgers.receives connection) (ledgers.receives left) error →
        verdict = .error (.ofError .receive error) := by
  cases handed : route.send query deadline ⟨site, some connection⟩ with
  | mk result sent =>
      obtain ⟨mid, rfl, shown, rested⟩ := reveals.send ready handed
      cases stage : stageResult .send limit result with
      | error failure =>
          rw [exchange_unsent handed stage] at ran
          cases ran
          refine ⟨mid, rfl, ?_, ?_⟩
          · intro error raised plain
            rw [← stage]
            exact stageResult_failed (shown.1.failed raised plain) .send limit
          · intro error raised
            rw [shown.2] at raised
            exact absurd raised Raised.irrefl
      | ok =>
          cases stageResult_ok.mp stage
          cases came : route.receive deadline ⟨site, some mid⟩ with
          | mk result answered =>
              obtain ⟨left, rfl, heard⟩ := reveals.receive (rested rfl) came
              rw [exchange_sent handed came] at ran
              cases ran
              refine ⟨left, rfl, ?_, ?_⟩
              · intro error raised plain
                rw [heard.2] at raised
                cases shown.1.failed raised plain
              · intro error raised
                rw [← shown.2] at raised
                exact stageResult_failed (failureOf_bind (heard.1.failed raised id) checkAnswer) .receive limit

end Test

theorem run_reached {route : Route (Journey ι δ)} {access : Access ι δ} (enters : route.connect = Journey.connect access)
    {query : Bytes} {deadline : Nat} {limit : Duration} {site : ι} {connection : δ}
    {verdict : Except TunnelError (Except Failure Unit)} {after : Journey ι δ}
    (ran : run route query deadline limit (.ofSite site) = (verdict, after)) (connected : after.connection = some connection) :
    ∃ made reached shown, access.connect deadline site = (some (.ok made), reached) ∧ verdict = .ok shown ∧
      exchange route query deadline limit ⟨reached, some made⟩ = (shown, after) := by
  unfold run at ran
  rw [enters] at ran
  unfold Journey.connect Journey.ofSite at ran
  dsimp only at ran
  cases tried : access.connect deadline site with
  | mk result reached =>
      rw [tried] at ran
      match result with
      | none =>
          cases ran
          cases connected
      | some (.error error) =>
          dsimp only at ran
          split at ran <;> cases ran <;> cases connected
      | some (.ok made) =>
          cases ran
          exact ⟨made, reached, _, rfl, rfl, rfl⟩

/-- The error that a connection raises at a stage of a test: the attempt to connect is made, and fails with it in time;
or a call takes it from what the far end had still to raise. -/
inductive Raises (far : Ledgers γ) (near : Ledgers δ) (limit : Nat) (site : Site γ) (after : Journey (Site γ) δ) :
    Stage → IoError → Prop
  | connect {error : IoError} (asked : after.site.connects ≠ site.connects)
      (refuses : site.opening.ending = .failed (.network error)) (inTime : site.opening.wait ≤ limit) :
      Raises far near limit site after .connect error
  | send {connection : δ} {error : IoError} (connected : after.connection = some connection)
      (raised : Raised (far.sends site.far) (near.sends connection) error) : Raises far near limit site after .send error
  | receive {connection : δ} {error : IoError} (connected : after.connection = some connection)
      (raised : Raised (far.receives site.far) (near.receives connection) error) :
      Raises far near limit site after .receive error

/-- A site is reached as it is, or by a connection that has still to raise what the far end has, or its address is refused
before anything is asked of it. -/
structure Enters [Timeline γ] (access : Access (Site γ) δ) (far : Ledgers γ) (near : Ledgers δ) (primed : δ → Prop) :
    Prop where
  now : access.now = Site.now
  connect : ∀ deadline site, (∃ fault, access.connect deadline site = (some (.error (.fault fault)), site)) ∨
    ∃ enter : γ → δ, access.connect deadline site = site.connect enter deadline ∧ ∀ line time,
      primed (enter (Timeline.setClock line time)) ∧
        near.sends (enter (Timeline.setClock line time)) = far.sends line ∧
        near.receives (enter (Timeline.setClock line time)) = far.receives line

section Site

variable [Timeline γ] {access : Access (Site γ) δ} {far : Ledgers γ} {near : Ledgers δ} {spared : IoError → Prop}
  {primed settled : δ → Prop}

theorem Enters.made (enters : Enters access far near primed) {deadline : Nat} {site reached : Site γ} {connection : δ}
    (made : access.connect deadline site = (some (.ok connection), reached)) :
    primed connection ∧ near.sends connection = far.sends site.far ∧ near.receives connection = far.receives site.far := by
  rcases enters.connect deadline site with ⟨fault, refused⟩ | ⟨enter, entered, lawful⟩
  · cases refused.symm.trans made
  · obtain ⟨reaches, -⟩ := Site.connect_eq_some.mp (entered.symm.trans made)
    cases reaches with
    | connected => exact lawful _ _

variable {route : Route (Journey (Site γ) δ)} {query : Bytes} {millis : Nat} {limit : Duration} {site : Site γ}
  {after : Journey (Site γ) δ} {stage : Stage} {error : IoError}

theorem Reveals.run (reveals : Reveals route near spared primed settled) (enters : Enters access far near primed)
    (connects : route.connect = Journey.connect access) {verdict : Except TunnelError (Except Failure Unit)}
    (ran : run route query (site.now + millis) limit (.ofSite site) = (verdict, after))
    (raises : Raises far near millis site after stage error) (plain : stage = .send → ¬ spared error) :
    verdict = .ok (.error (.ofError stage error)) := by
  have unconnected : ∀ {cause : TunnelError} {reached : Site γ},
      access.connect (site.now + millis) site = (some (.error cause), reached) →
      route.connect (site.now + millis) (.ofSite site) = (some (.error cause), ⟨reached, none⟩) := by
    intro cause reached tried
    rw [connects]
    unfold Journey.connect Journey.ofSite
    dsimp only
    rw [tried]
  cases raises with
  | connect asked refuses inTime =>
      rcases enters.connect (site.now + millis) site with ⟨fault, refused⟩ | ⟨enter, entered, -⟩
      · -- Nothing was asked of the site, so it cannot have failed.
        unfold Connectivity.run at ran
        rw [unconnected refused] at ran
        dsimp only at ran
        split at ran <;> cases ran <;> exact absurd rfl asked
      · obtain ⟨⟨wait, ending⟩, start, count, far⟩ := site
        cases refuses
        have refused : Site.connect enter (start + millis) ⟨⟨wait, .failed (.network error)⟩, start, count, far⟩ = _ :=
          Site.connect_eq_some.mpr ⟨.failed, Nat.add_le_add_left inTime start⟩
        have notConfig : ∀ cause, some (Except.error (TunnelError.network error) : Except TunnelError Unit) =
            some (.error cause) → ¬ cause.isConfigError := by
          rintro cause ⟨⟩
          exact nofun
        rw [run_failed (unconnected (entered.trans refused)) notConfig rfl] at ran
        cases ran
        rfl
  | send connected raised =>
      obtain ⟨made, reached, shown, came, rfl, exchanged⟩ := run_reached connects ran connected
      obtain ⟨ready, sends, -⟩ := enters.made came
      obtain ⟨left, rfl, told, -⟩ := reveals.exchange ready exchanged
      cases connected
      rw [← sends] at raised
      rw [told error raised (plain rfl)]
  | receive connected raised =>
      obtain ⟨made, reached, shown, came, rfl, exchanged⟩ := run_reached connects ran connected
      obtain ⟨ready, -, receives⟩ := enters.made came
      obtain ⟨left, rfl, -, told⟩ := reveals.exchange ready exchanged
      cases connected
      rw [← receives] at raised
      rw [told error raised]

theorem Reveals.probe (reveals : Reveals route near spared primed settled) (enters : Enters access far near primed)
    (connects : route.connect = Journey.connect access) (clock : route.now (.ofSite site) = site.now) {id : UInt16}
    {domain : String} {outcome : Except TunnelError Result}
    (tested : probe route id domain millis (.ofSite site) = (outcome, after))
    (raises : Raises far near millis site after stage error) (plain : stage = .send → ¬ spared error) :
    ∃ duration, outcome = .ok ⟨duration, some (.ofError stage error)⟩ := by
  cases built : Dns.buildQuery id domain with
  | error fault =>
      rw [probe_unasked built] at tested
      cases tested
      cases raises with
      | connect asked => exact absurd rfl asked
      | send connected | receive connected => cases connected
  | ok query =>
      cases ran : Connectivity.run route query (route.now (.ofSite site) + millis) (.ofMillis millis) (.ofSite site) with
      | mk verdict last =>
          rw [probe_asked built millis ran] at tested
          cases tested
          rw [clock] at ran
          rw [reveals.run enters connects ran raises plain]
          exact ⟨_, rfl⟩

end Site

end Connectivity
end SealedTunnel
