import SealedTunnel.Proofs.Stream.Carrying
import SealedTunnel.Proofs.Stream.Transit

/-!
When the data of a stream has arrived. While nothing fails, what is on the wire, on its way and queued makes up all
the data in order, and once a flush or a shutdown has come to its end nothing is on its way any more.
-/
namespace SealedTunnel

namespace Wire

/-- The bytes are a whole encoding of the data; where there is no data there may be none. -/
def Encodes (key : MasterKey) (data bytes : Bytes) : Prop :=
  data = [] ∧ bytes = [] ∨ ∃ salt payloads, salt.length = key.saltSize ∧ Sendable payloads ∧
    payloads.flatten = data ∧ encode key salt payloads = .ok bytes

theorem eq_nil_of_encodes {key : MasterKey} {data : Bytes} (encodes : Encodes key data []) : data = [] := by
  rcases encodes with ⟨none, -⟩ | ⟨salt, payloads, long, sendable, -, encoded⟩
  · exact none
  · obtain ⟨session, ofSalt⟩ := key.session_ok salt
    have empty := Except.ok.inj ((encode_eq ofSalt sendable).symm.trans encoded)
    have positive := Reader.saltSize_pos key
    rw [(List.append_eq_nil_iff.mp empty).1] at long
    exact absurd long (Nat.ne_of_lt positive)

end Wire

theorem Sealer.Wrote.encodes {key : MasterKey} {salts : SaltSource} {sealer : Sealer} {payloads : List Bytes}
    {bytes : Bytes} (wrote : sealer.Wrote key salts payloads bytes) : Wire.Encodes key payloads.flatten bytes := by
  cases wrote with
  | nothing _ _ _ _ none empty =>
      rw [none]
      exact Or.inl ⟨rfl, empty⟩
  | begun _ _ drawn ofSalt _ _ sendable encoded =>
      rw [encoded]
      exact Or.inr ⟨_, _, SaltSource.length_of_draw drawn, sendable, rfl, Wire.encode_eq ofSalt sendable⟩

theorem unsealed_left {σ : Type} {step : Step σ} {request : Request} (bare : request.data = []) :
    unsealed (step.left request).toList = [] := by
  refine List.flatMap_eq_nil_iff.mpr (fun operation mem => Operation.unsealed_bare ?_)
  rw [Step.eq_of_mem_left mem]
  exact bare

/-- An accepted write and other operations, which bring no data, none of whose data was lost so far. -/
structure Laden {σ : Type} (key : MasterKey) (salts : SaltSource) (good : σ → Prop) (writer : Writer (Recorded σ))
    (accepted : Option Operation) (others : List Operation) (total : Bytes) : Prop where
  transit : ∃ content, Transit key salts [] writer (accepted.toList ++ others) content ∧
    content ++ unsealed accepted.toList = total
  bare : ∀ operation ∈ others, operation.request.data = []
  here : good writer.sink.sink

namespace Laden

variable {σ : Type} {key : MasterKey} {salts : SaltSource} {good : σ → Prop} {writer : Writer (Recorded σ)}
  {accepted kept : Option Operation} {operation : Operation} {others : List Operation} {total : Bytes}

theorem crew (laden : Laden key salts good writer accepted others total) :
    Crew writer.lock (accepted.toList ++ others) := by
  obtain ⟨content, transit, -⟩ := laden.transit
  exact transit.crew

theorem perm {same : List Operation} (laden : Laden key salts good writer accepted others total)
    (perm : others.Perm same) : Laden key salts good writer accepted same total := by
  obtain ⟨⟨content, transit, whole⟩, bare, here⟩ := laden
  exact ⟨⟨content, transit.perm (perm.append_left _), whole⟩,
    fun operation mem => bare operation (perm.mem_iff.mpr mem), here⟩

theorem add (laden : Laden key salts good writer accepted others total) {request : Request}
    (empty : request.data = []) : Laden key salts good writer accepted (.ofRequest request :: others) total := by
  obtain ⟨⟨content, transit, whole⟩, bare, here⟩ := laden
  exact ⟨⟨content, (transit.add request).perm List.perm_middle.symm, whole⟩, List.forall_mem_cons.mpr ⟨empty, bare⟩,
    here⟩

theorem accept (laden : Laden key salts good writer none others total) (data : Bytes) :
    Laden key salts good writer (some (.ofRequest (.write data))) others (total ++ data) := by
  obtain ⟨⟨content, transit, whole⟩, bare, here⟩ := laden
  refine ⟨⟨content, transit.add (.write data), ?_⟩, bare, here⟩
  rw [← whole, unsealed_none, List.append_nil, unsealed_some]
  rfl

theorem slot (laden : Laden key salts good writer none (kept.toList ++ others) total) {request : Request}
    (empty : request.data = []) :
    Laden key salts good writer none (kept.getD (.ofRequest request) :: others) total := by
  cases kept with
  | none => exact laden.add empty
  | some operation => exact laden

theorem enqueue (laden : Laden key salts good writer accepted others total) (data : Bytes)
    (sealed : ∀ operation, accepted = some operation → operation.stage.isActive) :
    Laden key salts good (writer.enqueue data) accepted others (total ++ data) := by
  obtain ⟨⟨content, transit, whole⟩, bare, here⟩ := laden
  have none : unsealed accepted.toList = [] := by
    cases accepted with
    | none => rfl
    | some operation => exact (unsealed_some operation).trans (Operation.unsealed_active (sealed operation rfl))
  rw [none, List.append_nil] at whole
  refine ⟨⟨content ++ data, transit.enqueue data, ?_⟩, bare, here⟩
  rw [none, List.append_nil, whole]

theorem withSink (laden : Laden key salts good writer accepted others total) {sink : σ} (there : good sink) :
    Laden key salts good (writer.withSink sink) accepted others total := by
  obtain ⟨⟨content, transit, whole⟩, bare, -⟩ := laden
  exact ⟨⟨content, transit.withSink sink, whole⟩, bare, there⟩

/-- Once nobody is at work, all data that is not queued has arrived. -/
theorem settled (laden : Laden key salts good writer none others total)
    (idle : ∀ operation ∈ others, operation.stage.isActive = false) :
    ∃ sent, Wire.Encodes key sent writer.sink.wire ∧ sent ++ writer.queued = total := by
  obtain ⟨⟨content, transit, whole⟩, -, -⟩ := laden
  obtain ⟨payloads, stream, wrote, mended, same⟩ := transit.passage_idle idle
  rw [List.append_nil, ← Wire.mended_iff.mp mended] at wrote
  rw [unsealed_none, List.append_nil] at whole
  exact ⟨payloads.flatten, wrote.encodes, same.trans whole⟩

variable [ByteSink σ]

theorem first (laden : Laden key salts good writer (some operation) others total)
    (lossless : Lossless (writer.pollNoted operation).notes) (there : good (writer.poll operation).writer.sink.sink) :
    Laden key salts good (writer.poll operation).writer ((writer.poll operation).left operation.request) others
      total := by
  obtain ⟨⟨content, transit, whole⟩, bare, -⟩ := laden
  obtain ⟨⟨later, still, moved⟩, -⟩ := transit.poll
  rw [gapsIn_lossless lossless] at still
  refine ⟨⟨later, still, ?_⟩, bare, there⟩
  rw [moved lossless, ← whole, unsealed_some]

/-- Another operation takes only what was queued, so that the data of the accepted write keeps its place behind that. -/
theorem other (laden : Laden key salts good writer accepted (operation :: others) total)
    (lossless : Lossless (writer.pollNoted operation).notes) (there : good (writer.poll operation).writer.sink.sink) :
    Laden key salts good (writer.poll operation).writer accepted
      (((writer.poll operation).left operation.request).toList ++ others) total := by
  obtain ⟨⟨content, transit, whole⟩, bare, -⟩ := laden
  obtain ⟨⟨later, still, moved⟩, -⟩ := (transit.perm List.perm_middle).poll
  have mine := bare operation List.mem_cons_self
  have same := moved lossless
  rw [unsealed_left mine, Operation.unsealed_bare mine, List.append_nil, List.append_nil] at same
  subst same
  rw [gapsIn_lossless lossless] at still
  refine ⟨⟨later, still.perm (List.perm_append_comm_assoc _ _ _), whole⟩, ?_, there⟩
  intro other mem
  rcases List.mem_append.mp mem with left | mem
  · rw [Step.eq_of_mem_left left]
    exact mine
  · exact bare other (List.mem_cons_of_mem _ mem)

def Kept (good : σ → Prop) (writer : Writer (Recorded σ)) (operation : Operation) : Prop :=
  good (writer.poll operation).writer.sink.sink ∧ (writer.poll operation).result.outcome ≠ .failed ∧
    Lossless (writer.pollNoted operation).notes

theorem carries {strict : Prop}
    (keeps : ∀ {writer : Writer (Recorded σ)} {operation : Operation} {others : List Operation} {content : Bytes},
      Transit key salts [] writer (operation :: others) content → good writer.sink.sink →
        (strict → (writer.poll operation).result.outcome ≠ .failed) → Kept good writer operation) :
    Carries strict (Laden key salts good) where
  perm := perm
  first := by
    intro writer operation others total laden unfailed
    obtain ⟨content, transit, -⟩ := laden.transit
    obtain ⟨there, -, lossless⟩ := keeps transit laden.here unfailed
    exact laden.first lossless there
  accept := by
    intro writer others total data laden unfailed
    have accepted := laden.accept data
    obtain ⟨content, transit, -⟩ := accepted.transit
    obtain ⟨there, -, lossless⟩ := keeps transit accepted.here fun _ => unfailed
    exact accepted.first lossless there
  refuse := by
    intro writer others total data lax laden failed
    obtain ⟨content, transit, -⟩ := (laden.accept data).transit
    obtain ⟨-, unfailed, -⟩ := keeps transit laden.here fun strict => absurd strict lax
    exact absurd failed unfailed
  slot := by
    intro writer kept others total request empty laden unfailed
    have first := laden.slot empty
    obtain ⟨content, transit, -⟩ := first.transit
    obtain ⟨there, -, lossless⟩ := keeps transit laden.here unfailed
    exact first.other lossless there

theorem kept_steady (steady : Steady good) (able : salts.IsAble key) {content : Bytes}
    (transit : Transit key salts [] writer (operation :: others) content) (here : good writer.sink.sink) :
    Kept good writer operation := by
  obtain ⟨there, unfailed⟩ := transit.poll_behaves steady (by decide) (Or.inl (by decide)) able here
  exact ⟨there, unfailed, transit.poll.2 unfailed⟩

theorem kept_first (steady : Steady good) (able : salts.IsAble key)
    (laden : Laden key salts good writer (some operation) others total) : Kept good writer operation := by
  obtain ⟨content, transit, -⟩ := laden.transit
  exact kept_steady steady able transit laden.here

theorem kept_other (steady : Steady good) (able : salts.IsAble key)
    (laden : Laden key salts good writer accepted (operation :: others) total) : Kept good writer operation := by
  obtain ⟨content, transit, -⟩ := laden.transit
  exact kept_steady steady able (transit.perm List.perm_middle) laden.here

theorem carries_steady (steady : Steady good) (able : salts.IsAble key) : Carries False (Laden key salts good) :=
  carries fun transit here _ => kept_steady steady able transit here

theorem shares (steady : Steady good) (able : salts.IsAble key) : Shares (Laden key salts good) where
  perm := fun laden same => laden.perm same
  add := fun _ bare laden => laden.add bare
  accept := fun data laden => laden.accept data
  first := by
    intro writer operation others total laden
    obtain ⟨there, -, lossless⟩ := laden.kept_first steady able
    exact laden.first lossless there
  failed := by
    intro writer operation others total laden failed
    obtain ⟨-, unfailed, -⟩ := laden.kept_first steady able
    exact absurd failed unfailed
  other := by
    intro writer accepted operation others total laden
    obtain ⟨there, -, lossless⟩ := laden.kept_other steady able
    exact laden.other lossless there

theorem carries_strict : Carries (σ := Recorded σ) True (Laden key salts fun _ => True) :=
  carries fun transit here unfailed => ⟨here, unfailed trivial, transit.poll.2 (unfailed trivial)⟩

end Laden

def midway (kept : Option Operation) : Bool := kept.any fun operation => operation.stage.isActive

namespace Duplex

variable {ρ σ : Type}

/-- A flush or a shutdown has come to its end: nobody is at work, and all data was taken but for what was queued since
a call that was given up had begun its work. -/
structure Ended (kept : Option Operation) (behind : List Operation) (before after : Duplex ρ σ) : Prop where
  queued : after.writer.queued = if midway kept then before.writer.queued else []
  accepted : after.inFlight = none
  idle : ∀ operation ∈ after.others behind, operation.stage.isActive = false

variable [ByteSink σ] {stream : Duplex ρ σ} {behind : List Operation}

theorem shares_crew :
    Shares fun (writer : Writer σ) (accepted : Option Operation) (others : List Operation) (_ : Bytes) =>
      Crew writer.lock (accepted.toList ++ others) :=
  .of_all Crew.perm Crew.add Crew.poll

/-- While another operation is at work, the accepted write only waits. -/
theorem queued_pollInFlight (crew : Crew stream.writer.lock (stream.inFlight.toList ++ stream.others behind))
    {operation : Operation} (mem : operation ∈ stream.others behind) (active : operation.stage.isActive) :
    stream.pollInFlight.2.writer.queued = stream.writer.queued := by
  unfold pollInFlight
  cases kept : stream.inFlight with
  | none => rfl
  | some accepted =>
      rw [kept] at crew
      dsimp only
      rw [carry_eq]
      cases crew.carried with
      | granted _ _ _ idle _ => cases active.symm.trans (idle operation mem)
      | waits _ _ _ _ step => rw [step]

theorem Slot.poll_finished (slot : Slot) (finished : (slot.poll stream).1.outcome = .finished) :
    ∃ next, stream.pollInFlight = (.ready (.ok ()), next) ∧
      (next.writer.poll (slot.operation next)).result.outcome = .finished ∧
      (slot.poll stream).2 = slot.store next (next.writer.poll (slot.operation next)).writer none := by
  rw [poll_eq] at finished ⊢
  generalize stream.pollInFlight = before at finished ⊢
  obtain ⟨(error | done) | reason, next⟩ := before
  · cases finished
  · refine ⟨next, rfl, finished, ?_⟩
    dsimp only
    rw [Step.left_finished finished]
  · cases finished

theorem Slot.ended_poll (slot : Slot) (crew : Crew stream.writer.lock (stream.inFlight.toList ++ stream.others behind))
    (finished : (slot.poll stream).1.outcome = .finished) :
    Ended (slot.kept stream) behind stream (slot.poll stream).2 := by
  obtain ⟨next, done, ended, same⟩ := slot.poll_finished finished
  have after := @Keeps.pollInFlight _ _ _ _ _ _ _ [] shares_crew.carries crew False.elim
  have clear := inFlight_pollInFlight stream
  have kept := slot.kept_pollInFlight stream
  have still : ∀ operation ∈ stream.others behind, operation.stage.isActive →
      stream.pollInFlight.2.writer.queued = stream.writer.queued := fun operation => queued_pollInFlight crew
  rw [done] at after clear kept still
  have accepted : next.inFlight = none := clear rfl
  unfold Keeps at after
  rw [accepted] at after
  have crew := (after.perm (slot.others_perm next behind)).slot slot.request
  obtain ⟨queued, idle⟩ := crew.ended (Step.left_finished ended)
  rw [same]
  refine ⟨?_, ?_, ?_⟩
  · rw [slot.writer_store]
    refine queued.trans ?_
    rw [kept]
    cases held : slot.kept stream with
    | none => rfl
    | some operation =>
        have mem := Slot.mem_others held behind
        by_cases active : operation.stage.isActive
        · exact congrArg (fun queued => if operation.stage.isActive then queued else []) (still operation mem active)
        · exact (if_neg active).trans (if_neg active).symm
  · rw [slot.inFlight_store]
    exact accepted
  · exact fun operation mem => idle operation ((slot.others_store _ _ _ _).mem_iff.mp mem)

theorem Slot.queued_poll (slot : Slot) (tidy : Tidy stream.writer (stream.inFlight.toList ++ stream.others behind))
    (finished : (slot.poll stream).1.outcome = .finished) : (slot.poll stream).2.writer.queued = [] := by
  rw [(slot.ended_poll tidy.crew finished).queued]
  cases held : slot.kept stream with
  | none => rfl
  | some operation => exact tidy.untaken (List.mem_append_right _ (Slot.mem_others held behind))

end Duplex

theorem Laden.ended {ρ σ : Type} {key : MasterKey} {salts : SaltSource} {good : σ → Prop} {kept : Option Operation}
    {behind : List Operation} {before after : Duplex ρ (Recorded σ)} {total : Bytes}
    (keeps : after.Keeps (Laden key salts good) behind total) (ended : Duplex.Ended kept behind before after) :
    ∃ sent, Wire.Encodes key sent after.writer.sink.wire ∧ sent ++ after.writer.queued = total := by
  unfold Duplex.Keeps at keeps
  rw [ended.accepted] at keeps
  exact keeps.settled ended.idle

end SealedTunnel
