import SealedTunnel.Proofs.Stream.Delivery
import SealedTunnel.Proofs.Stream.Resalting

/-!
Operations on their way over a sink that does not fail, while the salts may come from one source after another. An
operation that is refused a salt loses what it has taken. That is the front of all data: nothing is on the wire before
there is a session, and afterwards no salt is asked for.
-/
namespace SealedTunnel

section Steady

variable {σ : Type} [ByteSink σ] {key : MasterKey} {salts : SaltSource} {good : σ → Prop} {writer : Writer (Recorded σ)}
  {operation : Operation} {accepted : Option Operation} {others : List Operation} {content total : Bytes}

/-- What a step comes to where no salt can be had: it fails for the salt, or it did not need one. -/
def Step.Hushed (good : σ → Prop) (sealer : Sealer) (step : Step (Recorded σ)) : Prop :=
  good step.writer.sink.sink ∧
    ((step.result.outcome ≠ .failed ∧ step.writer.sealer = sealer) ∨
      (step.result.outcome = .failed ∧ step.writer.sealer = { sealer with attempts := sealer.attempts + 1 } ∧
        step.writer.queued = []))

namespace Writer

theorem finish_hushed (steady : Steady good) (here : good writer.sink.sink) (request : Request) (ticket : Ticket) :
    (writer.finish request ticket).Hushed good writer.sealer := by
  obtain ⟨there, unfailed⟩ := writer.finish_behaves steady.recorded (by decide) request ticket here
  exact ⟨there, Or.inl ⟨unfailed, writer.sealer_finish request ticket⟩⟩

theorem start_hushed (steady : Steady good) (mute : writer.sealer.Mute) (here : good writer.sink.sink)
    (request : Request) (ticket : Ticket) : (writer.start request ticket).Hushed good writer.sealer := by
  unfold start
  dsimp only
  split
  · exact @finish_hushed _ _ _ { writer with queued := [] } steady here request ticket
  · obtain ⟨fault, refused⟩ := Sealer.sealData_mute mute (writer.queued ++ request.data)
    rw [refused]
    exact ⟨here, Or.inr ⟨rfl, rfl, rfl⟩⟩

theorem turn_hushed (steady : Steady good) (mute : writer.sealer.Mute) (here : good writer.sink.sink)
    (request : Request) (ticket : Ticket) {stage : Stage} (rest : stage.rest = []) :
    (writer.turn request ticket stage).Hushed good writer.sealer := by
  cases stage with
  | unstarted | waiting | finished => exact start_hushed steady mute here request ticket
  | finishing => exact finish_hushed steady here request ticket
  | sending _ bytes =>
      obtain rfl : bytes = [] := rest
      obtain ⟨there, unfailed⟩ := writer.send_behaves steady.recorded (by decide) request ticket [] here
      exact ⟨there, Or.inl ⟨unfailed, writer.sealer_send request ticket []⟩⟩

end Writer

theorem Crew.poll_hushed (crew : Crew writer.lock (operation :: others)) (steady : Steady good)
    (mute : writer.sealer.Mute) (here : good writer.sink.sink) (rest : operation.stage.rest = []) :
    (writer.poll operation).Hushed good writer.sealer := by
  cases crew.carried with
  | @granted ticket asked asks _ holds idle step =>
      rw [step]
      exact @Writer.turn_hushed _ _ _ { writer with lock := asked } steady mute here operation.request ticket _ rest
  | waits asks _ behind idle step =>
      rw [step]
      exact ⟨here, Or.inl ⟨nofun, rfl⟩⟩

/-- Over a sink that does not fail, an operation moves data on, or is refused a salt. Then what was queued is lost. -/
theorem Flowing.poll_steady (flowing : Flowing key salts writer (operation :: others) content) (steady : Steady good)
    (here : good writer.sink.sink) :
    good (writer.poll operation).writer.sink.sink ∧
      (((writer.poll operation).result.outcome ≠ .failed ∧
          ∃ later, Flowing key salts (writer.poll operation).writer
              (((writer.poll operation).left operation.request).toList ++ others) later ∧
            later ++ unsealed ((writer.poll operation).left operation.request).toList = content ++ operation.unsealed) ∨
        ((writer.poll operation).result.outcome = .failed ∧ (writer.poll operation).writer.sealer.refusals ≠ 0 ∧
          Flowing key salts (writer.poll operation).writer others [])) := by
  have goes : (writer.poll operation).result.outcome ≠ .failed → ∃ later,
      Flowing key salts (writer.poll operation).writer
          (((writer.poll operation).left operation.request).toList ++ others) later ∧
        later ++ unsealed ((writer.poll operation).left operation.request).toList = content ++ operation.unsealed := by
    intro unfailed
    rcases flowing.poll with failed | moved
    · exact absurd (Poll.outcome_eq_failed.mpr failed) unfailed
    · exact moved
  rcases salts.draw_all key.saltSize with able | unable
  · obtain ⟨there, unfailed⟩ := flowing.transit.poll_behaves steady (by decide) (Or.inl (by decide)) able here
    exact ⟨there, Or.inl ⟨unfailed, goes unfailed⟩⟩
  · have tidy := flowing.tidy.poll
    obtain ⟨rest, ⟨payloads, wrote, -⟩, active, -⟩ := flowing.flow
    cases wrote with
    | begun _ _ drawn =>
        obtain ⟨fault, undrawn⟩ := unable _
        cases drawn.symm.trans undrawn
    | nothing ofKey ofSalts unbegun nonce none empty =>
        obtain ⟨wire, rfl⟩ := List.append_eq_nil_iff.mp empty
        have mute : writer.sealer.Mute := ⟨unbegun, by rwa [ofSalts, ofKey]⟩
        have sent : operation.stage.rest = [] := by
          cases working : operation.stage.isActive with
          | true => exact active operation List.mem_cons_self working
          | false => exact Stage.rest_eq_nil working
        have quiet := writer.poll_quiet operation sent (Or.inr mute)
        obtain ⟨there, ⟨unfailed, -⟩ | ⟨failed, sealer, queued⟩⟩ := flowing.tidy.crew.poll_hushed steady mute here sent
        · exact ⟨there, Or.inl ⟨unfailed, goes unfailed⟩⟩
        · refine ⟨there, Or.inr ⟨failed, ?_, ?_⟩⟩
          · rw [sealer, Sealer.refusals_again unbegun]
            exact Nat.succ_ne_zero _
          · rw [Step.left_failed failed] at tidy
            refine ⟨tidy, [], ⟨[], ?_, queued⟩, fun other mem => active other (List.mem_cons_of_mem _ mem), fun _ => rfl⟩
            rw [sealer, quiet.wire, wire]
            exact .nothing ofKey ofSalts unbegun nonce rfl rfl

/-- What a step does to the accepted write that takes it, and to all that was on its way if it is refused a salt. -/
theorem Underway.first_steady (underway : Underway key salts good writer (some operation) others total)
    (steady : Steady good) :
    ((writer.poll operation).result.outcome ≠ .failed ∧
        Underway key salts good (writer.poll operation).writer ((writer.poll operation).left operation.request) others
          total) ∨
      ((writer.poll operation).writer.sealer.refusals ≠ 0 ∧ (writer.poll operation).left operation.request = none ∧
        Underway key salts good (writer.poll operation).writer none others []) := by
  obtain ⟨⟨content, flowing, whole⟩, bare, here⟩ := underway
  obtain ⟨there, ⟨unfailed, later, moved, same⟩ | ⟨failed, refused, ended⟩⟩ := flowing.poll_steady steady here
  · refine Or.inl ⟨unfailed, ⟨later, moved, ?_⟩, bare, there⟩
    rw [same, ← whole]
    exact congrArg (content ++ ·) (unsealed_some operation).symm
  · exact Or.inr ⟨refused, Step.left_failed failed, ⟨[], ended, rfl⟩, bare, there⟩

/-- What is queued is lost when another operation is refused a salt, but not the data of an accepted write that waits. -/
theorem Underway.other_steady (underway : Underway key salts good writer accepted (operation :: others) total)
    (steady : Steady good) :
    Underway key salts good (writer.poll operation).writer accepted
        (((writer.poll operation).left operation.request).toList ++ others) total ∨
      ((writer.poll operation).writer.sealer.refusals ≠ 0 ∧ (writer.poll operation).left operation.request = none ∧
        ∃ front back, front ++ back = total ∧ Underway key salts good (writer.poll operation).writer accepted others back)
      := by
  obtain ⟨⟨content, flowing, whole⟩, bare, here⟩ := underway
  have mine := bare operation List.mem_cons_self
  have theirs : ∀ other ∈ others, other.request.data = [] := fun other mem => bare other (List.mem_cons_of_mem _ mem)
  obtain ⟨there, ⟨unfailed, later, moved, same⟩ | ⟨failed, refused, ended⟩⟩ :=
    (flowing.perm List.perm_middle).poll_steady steady here
  · rw [unsealed_left mine, Operation.unsealed_bare mine, List.append_nil, List.append_nil] at same
    subst same
    refine Or.inl ⟨⟨later, moved.perm (List.perm_append_comm_assoc _ _ _), whole⟩, ?_, there⟩
    intro other mem
    rcases List.mem_append.mp mem with left | mem
    · rw [Step.eq_of_mem_left left]
      exact mine
    · exact theirs other mem
  · exact Or.inr ⟨refused, Step.left_failed failed, content, _, whole, ⟨[], ended, rfl⟩, theirs, there⟩

/-- An accepted write and other operations on their way. What was lost before was lost to salts that could not be had. -/
structure Afloat (key : MasterKey) (good : σ → Prop) (writer : Writer (Recorded σ)) (accepted : Option Operation)
    (others : List Operation) (total : Bytes) (salts : SaltSource) (lost kept : Bytes) : Prop where
  /-- Of a session that has begun it does not matter who is to yield the next salt. -/
  underway : Underway key salts good (writer.withSalts salts) accepted others kept
  source : writer.sealer.session = none → writer.sealer.salts = salts
  whole : lost ++ kept = total
  lossless : writer.sealer.refusals = 0 → lost = []

namespace Afloat

variable {lost kept : Bytes}

theorem source_poll (afloat : Afloat key good writer accepted others total salts lost kept)
    (unbegun : (writer.poll operation).writer.sealer.session = none) :
    (writer.poll operation).writer.sealer.salts = salts := by
  rw [writer.salts_poll operation]
  exact afloat.source (Writer.unbegun_poll unbegun)

theorem moved {moved : Option Operation} {same : List Operation}
    (afloat : Afloat key good writer accepted others total salts lost kept)
    (underway : Underway key salts good ((writer.poll operation).writer.withSalts salts) moved same kept) :
    Afloat key good (writer.poll operation).writer moved same total salts lost kept := by
  refine ⟨underway, afloat.source_poll, afloat.whole, fun none => ?_⟩
  have before := writer.refusals_poll operation
  rw [none] at before
  exact afloat.lossless (Nat.le_zero.mp before)

theorem refused {moved : Option Operation} {same : List Operation} {front back : Bytes}
    (afloat : Afloat key good writer accepted others total salts lost kept) (whole : front ++ back = kept)
    (refused : (writer.poll operation).writer.sealer.refusals ≠ 0)
    (underway : Underway key salts good ((writer.poll operation).writer.withSalts salts) moved same back) :
    Afloat key good (writer.poll operation).writer moved same total salts (lost ++ front) back := by
  refine ⟨underway, afloat.source_poll, ?_, fun none => absurd none refused⟩
  rw [List.append_assoc, whole, afloat.whole]

theorem first (afloat : Afloat key good writer (some operation) others total salts lost kept) (steady : Steady good) :
    ∃ lost kept, Afloat key good (writer.poll operation).writer ((writer.poll operation).left operation.request) others
      total salts lost kept := by
  have step := afloat.underway.first_steady steady
  rw [Writer.poll_withSalts afloat.source] at step
  rcases step with ⟨-, underway⟩ | ⟨refused, ended, underway⟩
  · exact ⟨_, _, afloat.moved underway⟩
  · have ended : (writer.poll operation).left operation.request = none := ended
    rw [ended]
    exact ⟨_, _, afloat.refused (List.append_nil kept) refused underway⟩

theorem other (afloat : Afloat key good writer accepted (operation :: others) total salts lost kept)
    (steady : Steady good) : ∃ lost kept, Afloat key good (writer.poll operation).writer accepted
      (((writer.poll operation).left operation.request).toList ++ others) total salts lost kept := by
  have step := afloat.underway.other_steady steady
  rw [Writer.poll_withSalts afloat.source] at step
  rcases step with underway | ⟨refused, ended, front, back, whole, underway⟩
  · exact ⟨_, _, afloat.moved underway⟩
  · have ended : (writer.poll operation).left operation.request = none := ended
    rw [ended]
    exact ⟨_, _, afloat.refused whole refused underway⟩

theorem failed (afloat : Afloat key good writer (some operation) others total salts lost kept) (steady : Steady good)
    (failed : (writer.poll operation).result.outcome = .failed) (other : Bytes) :
    Afloat key good (writer.poll operation).writer none others other salts other [] := by
  have step := afloat.underway.first_steady steady
  rw [Writer.poll_withSalts afloat.source] at step
  rcases step with ⟨unfailed, -⟩ | ⟨refused, -, underway⟩
  · exact absurd failed unfailed
  · exact ⟨underway, afloat.source_poll, List.append_nil other, fun none => absurd none refused⟩

omit [ByteSink σ] in
theorem withSalts (afloat : Afloat key good writer accepted others total salts lost kept) (source : SaltSource) :
    ∃ salts, Afloat key good (writer.withSalts source) accepted others total salts lost kept := by
  cases begun : writer.sealer.session with
  | some session =>
      refine ⟨salts, afloat.underway, fun unbegun => ?_, afloat.whole, afloat.lossless⟩
      cases begun.symm.trans unbegun
  | none =>
      obtain ⟨⟨⟨content, ⟨tidy, rest, ⟨payloads, wrote, same⟩, active⟩, whole⟩, bare, here⟩, -, split, lossless⟩ := afloat
      cases wrote with
      | begun _ _ _ _ some => cases begun.symm.trans some
      | nothing ofKey _ unbegun nonce none empty =>
          have wrote : ((writer.withSalts source).withSalts source).sealer.Wrote key source payloads
            (writer.sink.wire ++ rest) := .nothing ofKey rfl unbegun nonce none empty
          exact ⟨source, ⟨⟨content, ⟨⟨tidy.crew, tidy.taken⟩, rest, ⟨payloads, wrote, same⟩, active⟩, whole⟩, bare, here⟩,
            fun _ => rfl, split, lossless⟩

end Afloat

/-- All of the data is on its way, but for a front of it that was lost to salts that could not be had. -/
def Floats (key : MasterKey) (good : σ → Prop) (writer : Writer (Recorded σ)) (accepted : Option Operation)
    (others : List Operation) (total : Bytes) : Prop :=
  ∃ salts lost kept, Afloat key good writer accepted others total salts lost kept

theorem shares_floats (steady : Steady good) : Shares (@Floats σ key good) where
  perm := fun ⟨salts, lost, kept, afloat⟩ same =>
    ⟨salts, lost, kept, afloat.underway.perm same, afloat.source, afloat.whole, afloat.lossless⟩
  add := fun request bare ⟨salts, lost, kept, afloat⟩ =>
    ⟨salts, lost, kept, afloat.underway.add bare, afloat.source, afloat.whole, afloat.lossless⟩
  accept := by
    rintro writer others total data ⟨salts, lost, kept, afloat⟩
    refine ⟨salts, lost, kept ++ data, afloat.underway.accept data, afloat.source, ?_, afloat.lossless⟩
    rw [← List.append_assoc, afloat.whole]
  first := fun ⟨salts, lost, kept, afloat⟩ => ⟨salts, afloat.first steady⟩
  failed := fun ⟨salts, lost, kept, afloat⟩ failed other => ⟨salts, other, [], afloat.failed steady failed other⟩
  other := fun ⟨salts, lost, kept, afloat⟩ => ⟨salts, afloat.other steady⟩

end Steady
end SealedTunnel
