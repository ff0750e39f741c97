import SealedTunnel.Proofs.Stream.Sharing
import SealedTunnel.Proofs.Stream.Telling

/-!
Where errors come from. What a writer, a copy or a reader fails with has been thrown by the sink or the source below it,
or it is one of the few errors of its own: that the sink takes nothing more or no salt can be had, that the source ends in
the middle of a chunk or a chunk is refused. A session that is missing or cannot be had is not among them.
-/
namespace SealedTunnel

section Calls

variable {τ υ : Type} {call : τ → Option IoError → τ → Prop} {first middle last : τ} {failure : Option IoError}
  {error : IoError}

inductive Leads (call : τ → Option IoError → τ → Prop) (first : τ) : τ → Prop
  | here : Leads call first first
  | call {next last : τ} {failure : Option IoError} (before : Leads call first next) (made : call next failure last) :
      Leads call first last

inductive Throws (call : τ → Option IoError → τ → Prop) (first : τ) (error : IoError) : Prop
  | call {next last : τ} (before : Leads call first next) (failed : call next (some error) last)

theorem Leads.trans (before : Leads call first middle) (after : Leads call middle last) : Leads call first last := by
  induction after with
  | here => exact before
  | call after made ih => exact ih.call made

theorem Leads.keeps {good : τ → Prop}
    (keeps : ∀ {before after : τ} {failure : Option IoError}, call before failure after → good before → good after)
    (leads : Leads call first last) (here : good first) : good last := by
  induction leads with
  | here => exact here
  | call before made ih => exact keeps made ih

theorem Throws.behind (before : Leads call first middle) (throws : Throws call middle error) : Throws call first error := by
  obtain ⟨leads, failed⟩ := throws
  exact ⟨before.trans leads, failed⟩

section View

variable {other : υ → Option IoError → υ → Prop} {view : τ → υ}
  (maps : ∀ {before after : τ} {failure : Option IoError}, call before failure after →
    other (view before) failure (view after))

include maps

theorem Leads.map (leads : Leads call first last) : Leads other (view first) (view last) := by
  induction leads with
  | here => exact .here
  | call before made ih => exact ih.call (maps made)

theorem Throws.map (throws : Throws call first error) : Throws other (view first) error := by
  obtain ⟨leads, failed⟩ := throws
  exact ⟨leads.map maps, maps failed⟩

end View

/-- Only by calls a state becomes another, and what this fails with is thrown by a call or one of certain errors of its
own. -/
structure Relays (call : τ → Option IoError → τ → Prop) (own : IoError → Prop) (first : τ) (failure : Option IoError)
    (last : τ) : Prop where
  leads : Leads call first last
  blames : ∀ error, failure = some error → own error ∨ Throws call first error

namespace Relays

variable {own wider : IoError → Prop}

theorem quiet (leads : Leads call first last) : Relays call own first none last := ⟨leads, fun _ failed => by cases failed⟩

theorem ofOwn (leads : Leads call first last) (known : own error) : Relays call own first (some error) last :=
  ⟨leads, fun _ failed => Or.inl (Option.some.inj failed ▸ known)⟩

theorem ofCall (made : call first failure last) : Relays call own first failure last :=
  ⟨.call .here made, fun _ failed => Or.inr ⟨.here, failed ▸ made⟩⟩

theorem weaken (relays : Relays call own first failure last) (weaker : ∀ error, own error → wider error) :
    Relays call wider first failure last :=
  ⟨relays.leads, fun error failed => (relays.blames error failed).imp_left (weaker error)⟩

theorem trans (before : Leads call first middle) (after : Relays call own middle failure last) :
    Relays call own first failure last :=
  ⟨before.trans after.leads, fun error failed => (after.blames error failed).imp_right (.behind before)⟩

end Relays

end Calls

section Sinks

variable {σ : Type} [ByteSink σ]

/-- A call at a sink, with what it fails with and what it leaves. None writes nothing. -/
inductive ByteSink.Call (sink : σ) : Option IoError → σ → Prop
  | write {bytes : Bytes} (some : bytes ≠ []) : Call sink (write sink bytes).1.failure? (write sink bytes).2
  | flush : Call sink (flush sink).1.failure? (flush sink).2
  | shutdown : Call sink (shutdown sink).1.failure? (shutdown sink).2

theorem Recorded.throws {recorded : Recorded σ} {error : IoError} (throws : Throws ByteSink.Call recorded error) :
    Throws ByteSink.Call recorded.sink error := by
  refine throws.map fun made => ?_
  cases made with
  | write some => exact .write some
  | flush => exact .flush
  | shutdown => exact .shutdown

theorem Poll.failure?_none {α : Type} {answer : Poll (Except IoError α)} (fine : answer.outcome ≠ .failed) :
    answer.failure? = none := by
  obtain (error | value) | reason := answer
  · exact absurd rfl fine
  · rfl
  · rfl

theorem Poll.outcome_of_written {answer : Poll (Except IoError Nat)} (fine : answer.written ≠ .failed) :
    answer.outcome ≠ .failed := by
  obtain (error | count) | reason := answer
  · exact fine
  · exact fun failed => by cases failed
  · exact fine

theorem Steady.throws_nothing {steady : σ → Prop} (behaves : Steady steady) {sink : σ} (here : steady sink)
    (error : IoError) : ¬ Throws ByteSink.Call sink error := by
  have calls : ∀ {before after : σ} {failure : Option IoError}, ByteSink.Call before failure after → steady before →
      steady after ∧ failure = none := by
    intro before after failure made here
    cases made with
    | write some =>
        obtain ⟨still, fine⟩ := behaves.write here some rfl
        exact ⟨still, Poll.failure?_none (Poll.outcome_of_written fine)⟩
    | flush => exact (behaves.flush here rfl).imp_right Poll.failure?_none
    | shutdown => exact (behaves.shutdown here rfl).imp_right Poll.failure?_none
  rintro ⟨leads, failed⟩
  cases (calls failed (leads.keeps (fun made here => (calls made here).1) here)).2

theorem drain_relays (stuck : IoError) (sink : σ) (bytes : Bytes) :
    Relays ByteSink.Call (· = stuck) sink (drain stuck sink bytes).1.failure? (drain stuck sink bytes).2.2 := by
  have writes : ∀ {sink next : σ} {bytes : Bytes} {answer : Poll (Except IoError Nat)}, ¬ bytes.length = 0 →
      ByteSink.write sink bytes = (answer, next) → ByteSink.Call sink answer.failure? next := by
    intro sink next bytes answer some written
    have made : ByteSink.Call sink _ _ := .write fun none => some (congrArg List.length none)
    rwa [written] at made
  fun_induction drain stuck sink bytes with
  | case1 sink => exact .quiet .here
  | case2 _ _ some _ _ written | case4 _ _ some _ _ written => exact .ofCall (writes some written)
  | case3 _ _ some _ _ written interrupted ih => exact .trans (.call .here (writes some written)) ih
  | case5 _ _ some _ written => exact .ofOwn (.call .here (writes some written)) rfl
  | case6 _ _ some _ _ written ih => exact .trans (.call .here (writes some written)) ih

theorem close_relays (own : IoError → Prop) (request : Request) (sink : σ) :
    Relays ByteSink.Call own sink (request.close sink).1.failure? (request.close sink).2 := by
  cases request with
  | write => exact .quiet .here
  | flush => exact .ofCall .flush
  | shutdown => exact .ofCall .shutdown

end Sinks

/-- Data is left unsealed only for want of a salt: every salt begins a session, and what is sealed at a time is short. -/
theorem Sealer.sealData_error {sealer after : Sealer} {data : Bytes} {fault : Fault}
    (failed : sealer.sealData data = (.error fault, after)) : ∃ cause, fault = .salt cause := by
  have nonce : sealer.nonce = .ofNat sealer.nonce.value := sealer.nonce.ofNat_value.symm
  cases begun : sealer.session with
  | some session => cases (sealData_begun begun nonce data).symm.trans failed
  | none =>
      cases drawn : sealer.salts.draw sealer.attempts sealer.key.saltSize with
      | error reason =>
          cases (sealData_unsalted begun drawn data).symm.trans failed
          exact SaltSource.fault_of_draw drawn
      | ok salt =>
          obtain ⟨session, ofSalt⟩ := sealer.key.session_ok salt
          cases (sealData_first begun nonce drawn ofSalt data).symm.trans failed

namespace Writer

variable {σ : Type} [ByteSink σ]

def Own (error : IoError) : Prop := error = .stuck ∨ ∃ cause, error = .ofFault (.salt cause)

end Writer

def Step.Relays {σ : Type} [ByteSink σ] (sink : σ) (step : Step σ) : Prop :=
  SealedTunnel.Relays ByteSink.Call Writer.Own sink step.result.failure? step.writer.sink

namespace Writer

variable {σ : Type} [ByteSink σ] (writer : Writer σ) (request : Request) (ticket : Ticket)

theorem finish_relays : (writer.finish request ticket).Relays writer.sink := by
  have closed := close_relays Own request writer.sink
  rw [finish_eq]
  split <;> rename_i same <;> rw [same] at closed <;> exact closed

theorem send_relays (rest : Bytes) : (writer.send request ticket rest).Relays writer.sink := by
  have drained : Relays ByteSink.Call Own writer.sink (drain .stuck writer.sink rest).1.failure?
      (drain .stuck writer.sink rest).2.2 := (drain_relays .stuck writer.sink rest).weaken fun _ => Or.inl
  unfold send
  split
  · rename_i stalled
    rwa [stalled] at drained
  · rename_i failed
    rwa [failed] at drained
  · rename_i sent
    rw [sent] at drained
    exact Relays.trans drained.leads (finish_relays { writer with sink := _ } request ticket)

theorem start_relays : (writer.start request ticket).Relays writer.sink := by
  unfold start
  dsimp only
  split
  · exact finish_relays { writer with queued := [] } request ticket
  · split
    · rename_i refused
      obtain ⟨cause, rfl⟩ := Sealer.sealData_error refused
      exact Relays.ofOwn .here (Or.inr ⟨cause, rfl⟩)
    · exact send_relays { writer with queued := [], sealer := _ } request ticket _

/-- In whatever state it is, a writer fails with what the sink throws or with an error of its own. -/
theorem poll_relays (operation : Operation) : (writer.poll operation).Relays writer.sink := by
  unfold poll
  dsimp only
  split
  · split
    · exact start_relays { writer with lock := writer.lock.request.2 } operation.request _
    · exact Relays.quiet .here
  · split
    · exact writer.start_relays operation.request _
    · exact Relays.quiet .here
  · exact writer.send_relays operation.request _ _
  · exact writer.finish_relays operation.request _
  · exact Relays.quiet .here

end Writer

section Sources

variable {ρ : Type} [ByteSource ρ]

inductive ByteSource.Call (source : ρ) : Option IoError → ρ → Prop
  | read (room : Nat) : Call source (read source room).1.failure? (read source room).2

theorem ByteSource.call_of_read {source next : ρ} {room : Nat} {answer : Poll (Except IoError Bytes)}
    (done : ByteSource.read source room = (answer, next)) : ByteSource.Call source answer.failure? next := by
  have made : ByteSource.Call source _ _ := .read room
  rwa [done] at made

theorem gather_relays (own : IoError → Prop) (source : ρ) (buffer : Bytes) (needed : Nat) :
    Relays ByteSource.Call own source (gather source buffer needed).1.failure? (gather source buffer needed).2.1 := by
  fun_induction gather source buffer needed with
  | case1 => exact .quiet .here
  | case2 _ _ _ _ _ read | case3 _ _ _ _ _ read | case4 _ _ _ _ read => exact .ofCall (ByteSource.call_of_read read)
  | case5 _ _ _ _ _ _ read ih => exact .trans (.call .here (ByteSource.call_of_read read)) ih

end Sources

section Copying

variable {ρ σ : Type} [ByteSource ρ] [ByteSink σ] {error : IoError}

theorem Copy.pull_error (writer : Writer σ) (source : ρ) (total : Nat)
    (failed : (Copy.pull writer source total).1.failure? = some error) :
    Writer.Own error ∨ Throws ByteSink.Call writer.sink error ∨ Throws ByteSource.Call source error := by
  fun_induction Copy.pull writer source total with
  | case1 | case3 => cases failed
  | case2 writer source total reason next read =>
      cases failed
      exact Or.inr (Or.inr ⟨.here, ByteSource.call_of_read read⟩)
  | case4 writer source total byte rest next read piece operation step reason result => cases failed
  | case5 writer source total byte rest next read piece operation step reason result =>
      have relays : step.Relays writer.sink := writer.poll_relays operation
      cases failed
      refine (relays.blames error ?_).imp_right Or.inl
      rw [result]
      rfl
  | case6 writer source total byte rest next read piece operation step done result ih =>
      have relays : step.Relays writer.sink := writer.poll_relays operation
      rcases ih failed with known | thrown | thrown
      · exact Or.inl known
      · exact Or.inr (Or.inl (thrown.behind relays.leads))
      · exact Or.inr (Or.inr (thrown.behind (.call .here (ByteSource.call_of_read read))))

theorem Copy.poll_error (writer : Writer σ) (copy : Copy ρ) (failed : (copy.poll writer).1.failure? = some error) :
    Writer.Own error ∨ Throws ByteSink.Call writer.sink error ∨ Throws ByteSource.Call copy.source error := by
  obtain ⟨source, _ | ⟨operation, length⟩, total⟩ := copy
  · exact pull_error writer source total failed
  · have relays := writer.poll_relays operation
    unfold Copy.poll at failed
    dsimp only at failed
    split at failed
    · cases failed
    · rename_i result
      cases failed
      refine (relays.blames error ?_).imp_right Or.inl
      rw [result]
      rfl
    · rcases pull_error _ _ _ failed with known | thrown | thrown
      · exact Or.inl known
      · exact Or.inr (Or.inl (thrown.behind relays.leads))
      · exact Or.inr (Or.inr thrown)

end Copying

namespace Reader

variable {ρ : Type}

def Own (error : IoError) : Prop := error = midChunk ∨ error = refusal

/-- There is a session once its salt has come. -/
def HasSession (reader : Reader ρ) : Prop :=
  match reader.state with
  | .length => reader.session.isSome
  | .payload _ => reader.session.isSome
  | _ => True

variable [ByteSource ρ]

def Round.Relays (source : ρ) : Round ρ → Prop
  | .answer result reader =>
    SealedTunnel.Relays ByteSource.Call Own source result.failure? reader.source ∧ reader.HasSession
  | .again reader => SealedTunnel.Leads ByteSource.Call source reader.source ∧ reader.HasSession

omit [ByteSource ρ] in
theorem session_openFront {reader next : Reader ρ} {length : Nat} {result : Except IoError Bytes}
    (opened : reader.openFront length = (result, next)) : next.session = reader.session := by
  obtain ⟨_, _, same⟩ | ⟨_, -, same⟩ := reader.openFront_cases length <;> cases same.symm.trans opened <;> rfl

omit [ByteSource ρ] in
/-- With a session, opening is refused for what there is to be opened, and never for want of the session. -/
theorem openFront_error {reader next : Reader ρ} {length : Nat} {error : IoError} (session : reader.session.isSome)
    (failed : reader.openFront length = (.error error, next)) : error = refusal ∧ next.state = .refused := by
  obtain ⟨session, begun⟩ := Option.isSome_iff_exists.mp session
  unfold openFront at failed
  rw [begun] at failed
  dsimp only at failed
  split at failed
  · rename_i fault refused
    cases failed
    cases Aead.openParts_error refused
    exact ⟨rfl, rfl⟩
  · cases failed

omit [ByteSource ρ] in
theorem HasSession.isSome {reader : Reader ρ} (held : reader.HasSession)
    (opens : reader.state = .length ∨ ∃ size, reader.state = .payload size) : reader.session.isSome := by
  unfold HasSession at held
  rcases opens with state | ⟨size, state⟩ <;> rwa [state] at held

theorem refused_relays {reader next : Reader ρ} {length : Nat} {error : IoError} (session : reader.session.isSome)
    (failed : reader.openFront length = (.error error, next)) :
    (Round.answer (.ready (.error error)) next).Relays reader.source := by
  obtain ⟨rfl, refused⟩ := openFront_error session failed
  refine ⟨TellingAll.source_openFront failed ▸ .ofOwn .here (Or.inr rfl), ?_⟩
  rw [HasSession, refused]
  trivial

theorem openLength_relays {reader : Reader ρ} (session : reader.session.isSome) :
    reader.openLength.Relays reader.source := by
  unfold openLength
  split <;> rename_i opened
  · exact refused_relays session opened
  · exact ⟨TellingAll.source_openFront opened ▸ .here, session_openFront opened ▸ session⟩

theorem openPayload_relays {reader : Reader ρ} (size : Nat) (session : reader.session.isSome) :
    (reader.openPayload size).Relays reader.source := by
  unfold openPayload
  split <;> rename_i opened
  · exact refused_relays session opened
  · exact ⟨TellingAll.source_openFront opened ▸ .here, session_openFront opened ▸ session⟩

theorem withBytes_relays {reader : Reader ρ} {needed : Nat} {go atEnd : Reader ρ → Round ρ} (held : reader.HasSession)
    (goes : ∀ other : Reader ρ, other.state = reader.state → other.HasSession → (go other).Relays other.source)
    (ends : ∀ other : Reader ρ, other.state = reader.state → other.HasSession → (atEnd other).Relays other.source) :
    (reader.withBytes needed go atEnd).Relays reader.source := by
  have gathered := gather_relays Own reader.source reader.buffer needed
  -- What is gathered changes neither the session nor the state, and what follows goes on behind it.
  have behind : ∀ {source : ρ} {round : Round ρ}, Leads ByteSource.Call reader.source source → round.Relays source →
      round.Relays reader.source := by
    intro source round before relays
    cases round with
    | answer => exact ⟨.trans before relays.1, relays.2⟩
    | again => exact ⟨before.trans relays.1, relays.2⟩
  unfold withBytes
  split <;> rename_i came <;> rw [came] at gathered
  · exact ⟨gathered, held⟩
  · exact ⟨gathered, held⟩
  · exact behind gathered.leads (ends _ rfl held)
  · exact behind gathered.leads (goes _ rfl held)

theorem round_relays {reader : Reader ρ} (held : reader.HasSession) : reader.round.Relays reader.source := by
  have ends : ∀ other : Reader ρ, other.HasSession → other.endOfSource.Relays other.source := by
    intro other held
    unfold endOfSource
    split
    · exact ⟨.quiet .here, trivial⟩
    · exact ⟨.ofOwn .here (Or.inl rfl), held⟩
  unfold round
  split <;> rename_i state
  · exact ⟨.quiet .here, held⟩
  · exact ⟨.ofOwn .here (Or.inr rfl), held⟩
  · refine withBytes_relays held (fun other same held => ?_) fun other _ held => ends other held
    obtain ⟨session, ofSalt⟩ := other.key.session_ok (other.buffer.take other.key.saltSize)
    simp only [beginSession, ofSalt]
    exact ⟨.here, rfl⟩
  · refine withBytes_relays held (fun other same held => ?_) fun other _ held => ends other held
    exact openLength_relays (held.isSome (Or.inl (same.trans state)))
  · refine withBytes_relays held (fun other same held => ?_) fun other _ held => ⟨.ofOwn .here (Or.inl rfl), held⟩
    exact openPayload_relays _ (held.isSome (Or.inr ⟨_, same.trans state⟩))

/-- A read fails with what the source throws or with an error of the reader, and leaves a session where there has to be
one. -/
theorem poll_relays {reader : Reader ρ} (held : reader.HasSession) (room : Nat) :
    Relays ByteSource.Call Own reader.source (reader.poll room).1.failure? (reader.poll room).2.source ∧
      (reader.poll room).2.HasSession := by
  fun_induction poll reader room with
  | case1 | case2 => exact ⟨.quiet .here, held⟩
  | case3 reader _ _ result next came =>
      have relays := round_relays held
      rwa [came] at relays
  | case4 reader _ _ next came ih =>
      have relays := round_relays held
      rw [came] at relays
      obtain ⟨later, still⟩ := ih relays.2
      exact ⟨.trans relays.1 later, still⟩

/-- The states of a reader under the key. They are reached by reads, between which the source does as it likes. -/
inductive Reached (key : MasterKey) : Reader ρ → Prop
  | fresh (source : ρ) : Reached key (fresh key source)
  | poll {reader : Reader ρ} (room : Nat) (before : Reached key reader) : Reached key (reader.poll room).2
  | source {reader : Reader ρ} (source : ρ) (before : Reached key reader) : Reached key { reader with source }

theorem Reached.hasSession {key : MasterKey} {reader : Reader ρ} (reached : Reached key reader) : reader.HasSession := by
  induction reached with
  | fresh source => trivial
  | poll room before ih => exact (poll_relays ih room).2
  | source source before ih => exact ih

end Reader

end SealedTunnel
