import SealedTunnel.Proofs.Stream.Carrying
import SealedTunnel.Proofs.Stream.Gaps

namespace SealedTunnel.Duplex

variable {ρ σ : Type} [ByteSink σ]

inductive Ask
  | write (data : Bytes)
  | flush
  | shutdown

def perform (stream : Duplex ρ σ) : Ask → Poll (Except IoError Unit) × Duplex ρ σ
  | .write data => ((stream.pollWrite data).1.map (·.map fun _ => ()), (stream.pollWrite data).2)
  | .flush => stream.pollFlush
  | .shutdown => stream.pollShutdown

theorem perform_write {stream next : Duplex ρ σ} {data : Bytes} {answer : Poll (Except IoError Nat)}
    (wrote : stream.pollWrite data = (answer, next)) :
    stream.perform (.write data) = (answer.map (·.map fun _ => ()), next) := by
  rw [perform, wrote]

theorem perform_stalled {stream next : Duplex ρ σ} {reason : Stall}
    (waits : stream.pollInFlight = (.stalled reason, next)) (ask : Ask) :
    stream.perform ask = (.stalled reason, next) := by
  cases ask with
  | write data =>
      rw [perform, pollWrite, waits]
      rfl
  | flush => rw [perform, pollFlush, waits]
  | shutdown => rw [perform, pollShutdown, waits]

theorem perform_failed {stream next : Duplex ρ σ} {error : IoError}
    (failed : stream.pollInFlight = (.ready (.error error), next)) (ask : Ask) :
    stream.perform ask = (.ready (.error error), next) := by
  cases ask with
  | write data =>
      rw [perform, pollWrite, failed]
      rfl
  | flush => rw [perform, pollFlush, failed]
  | shutdown => rw [perform, pollShutdown, failed]

theorem request_pollWrite {stream : Duplex ρ σ} {data : Bytes} {operation : Operation}
    (ready : (stream.pollWrite data).1.isReady) (held : (stream.pollWrite data).2.inFlight = some operation) :
    operation.request = .write data := by
  have clear := inFlight_pollInFlight stream
  unfold pollWrite at ready held
  generalize stream.pollInFlight = before at clear ready held
  obtain ⟨(error | done) | reason, next⟩ := before
  · cases (clear rfl).symm.trans held
  · dsimp only at held
    rw [carry_eq] at held
    split at held
    · cases (clear rfl).symm.trans held
    · dsimp only at held
      split at held
      · cases (clear rfl).symm.trans held
      · cases (clear rfl).symm.trans held
      · rw [Step.eq_of_mem_left (Option.mem_toList.mpr held)]
        rfl
  · cases ready

structure Called (ρ σ : Type) where
  /-- The stream as the call finds it. -/
  stream : Duplex ρ σ
  ask : Ask
  /-- Which call has accepted the write in flight. -/
  number : Option Nat

namespace Called

def answer (called : Called ρ σ) : Poll (Except IoError Unit) := (called.stream.perform called.ask).1

def after (called : Called ρ σ) : Duplex ρ σ := (called.stream.perform called.ask).2

/-- What the write in flight comes to, if the call finds it finished. -/
def outcome (called : Called ρ σ) : Option (Except IoError Unit) :=
  match called.stream.inFlight with
  | none => none
  | some operation =>
    match (called.stream.writer.poll operation).result with
    | .ready result => some result
    | .stalled _ => none

/-- Whose write is in flight after the call: the same as before while that is not finished, and else its own. -/
def onward (called : Called ρ σ) (index : Nat) : Option Nat :=
  match called.after.inFlight with
  | none => none
  | some _ => if called.stream.inFlight.isSome ∧ called.outcome = none then called.number else some index

end Called

/-- The calls that have been made, and whose write is in flight. What becomes of the halves in between is left open:
there may be reads, other tasks at the writer, and anything at the sink. -/
inductive Calls (first : Duplex ρ σ) : List (Called ρ σ) → Option Nat → Duplex ρ σ → Prop
  | start : Calls first [] none first
  | meanwhile {history : List (Called ρ σ)} {number : Option Nat} {stream : Duplex ρ σ} (reader : Reader ρ)
      (writer : Writer σ) (before : Calls first history number stream) :
      Calls first history number { stream with reader, writer }
  | call {history : List (Called ρ σ)} {number : Option Nat} {stream : Duplex ρ σ} (ask : Ask)
      (before : Calls first history number stream) :
      Calls first (history ++ [⟨stream, ask, number⟩])
        (Called.onward ⟨stream, ask, number⟩ history.length) (stream.perform ask).2

def Holds (index : Nat) (data : Bytes) (number : Option Nat) (stream : Duplex ρ σ) : Prop :=
  number = some index ∧ ∃ operation, stream.inFlight = some operation ∧ operation.request = .write data

namespace Called

variable {called : Called ρ σ} {index : Nat} {data : Bytes}

structure Waits (index : Nat) (data : Bytes) (called : Called ρ σ) : Prop where
  holds : Holds index data called.number called.stream
  unfinished : called.outcome = none
  stalls : ∃ reason, called.answer = .stalled reason

/-- The write is finished. If it has failed, the call fails with its error, and has done nothing else. -/
structure Settles (index : Nat) (data : Bytes) (called : Called ρ σ) : Prop where
  holds : Holds index data called.number called.stream
  finished : ∃ result, called.outcome = some result ∧ ∀ error, result = .error error →
    called.answer = .ready (.error error) ∧ called.after = called.stream.pollInFlight.2 ∧ called.after.inFlight = none

theorem onward_new (called : Called ρ σ) {index other : Nat} (new : other ≠ index) (unheld : called.number ≠ some index) :
    called.onward other ≠ some index := by
  unfold onward
  split
  · exact (Option.some_ne_none index).symm
  · split
    · exact unheld
    · exact fun same => new (Option.some.inj same)

theorem onward_settled (called : Called ρ σ) {index other : Nat} (new : other ≠ index) (settled : called.outcome ≠ none) :
    called.onward other ≠ some index := by
  unfold onward
  split
  · exact (Option.some_ne_none index).symm
  · rw [if_neg fun unfinished => settled unfinished.2]
    exact fun same => new (Option.some.inj same)

theorem waits_or_settles (holds : Holds index data called.number called.stream) {other : Nat} (new : other ≠ index) :
    called.Waits index data ∧ Holds index data (called.onward other) called.after ∨
      called.Settles index data ∧ called.onward other ≠ some index := by
  have numbered := holds.1
  obtain ⟨operation, held, request⟩ := holds.2
  have inFlight := pollInFlight_some held
  have outcome : called.outcome = match (called.stream.writer.poll operation).result with
      | .ready result => some result
      | .stalled _ => none := by
    rw [Called.outcome, held]
  cases polled : (called.stream.writer.poll operation).result with
  | stalled reason =>
      rw [polled] at inFlight outcome
      have performed := perform_stalled inFlight called.ask
      have kept : called.after.inFlight = some ⟨operation.request, (called.stream.writer.poll operation).stage⟩ := by
        rw [after, performed]
        dsimp only
        rw [Step.left, polled]
      refine Or.inl ⟨⟨holds, outcome, reason, congrArg Prod.fst performed⟩, ?_, _, kept, request⟩
      unfold onward
      rw [kept]
      dsimp only
      rw [if_pos ⟨held ▸ rfl, outcome⟩, numbered]
  | ready result =>
      rw [polled] at inFlight outcome
      refine Or.inr ⟨⟨holds, result, outcome, ?_⟩, called.onward_settled new ?_⟩
      · rintro error rfl
        have performed := perform_failed inFlight called.ask
        refine ⟨congrArg Prod.fst performed, ?_, ?_⟩
        · rw [after, performed, inFlight]
        · rw [after, performed]
          dsimp only
          rw [Step.left, polled]
      · rw [outcome]
        exact Option.some_ne_none result

theorem accepts (write : called.ask = .write data) (accepted : called.answer = .ready (.ok ()))
    (unfinished : called.after.inFlight ≠ none) (index : Nat) : Holds index data (called.onward index) called.after := by
  have free : ¬ (called.stream.inFlight.isSome ∧ called.outcome = none) := by
    rintro ⟨held, unready⟩
    obtain ⟨operation, held⟩ := Option.isSome_iff_exists.mp held
    have inFlight := pollInFlight_some held
    rw [outcome, held] at unready
    cases polled : (called.stream.writer.poll operation).result with
    | ready result =>
        dsimp only at unready
        rw [polled] at unready
        cases unready
    | stalled reason =>
        rw [polled] at inFlight
        have performed := congrArg Prod.fst (perform_stalled inFlight called.ask)
        cases accepted.symm.trans performed
  obtain ⟨operation, held⟩ := Option.ne_none_iff_exists'.mp unfinished
  refine ⟨?_, operation, held, ?_⟩
  · rw [onward, held]
    exact if_neg free
  · rw [answer, write, perform] at accepted
    rw [after, write] at held
    refine request_pollWrite ?_ held
    cases answered : (called.stream.pollWrite data).1 with
    | ready result => rfl
    | stalled reason =>
        rw [answered] at accepted
        cases accepted

end Called

/-- What becomes of the write that call `index` has accepted: the calls behind it wait until one settles it, and then it
is never in flight again. -/
def Fate (index : Nat) (data : Bytes) (later : List (Called ρ σ)) (number : Option Nat) (stream : Duplex ρ σ) : Prop :=
  ∃ waiting rest, later = waiting ++ rest ∧ (∀ called ∈ waiting, called.Waits index data) ∧
    (rest = [] ∧ Holds index data number stream ∨
      ∃ settling others, rest = settling :: others ∧ settling.Settles index data ∧
        (∀ called ∈ others, called.number ≠ some index) ∧ number ≠ some index)

namespace Fate

variable {index : Nat} {data : Bytes} {later : List (Called ρ σ)} {number : Option Nat} {stream : Duplex ρ σ}

theorem meanwhile (fate : Fate index data later number stream) (reader : Reader ρ) (writer : Writer σ) :
    Fate index data later number { stream with reader, writer } := fate

theorem call (fate : Fate index data later number stream) (ask : Ask) {other : Nat} (new : other ≠ index) :
    Fate index data (later ++ [⟨stream, ask, number⟩]) (Called.onward ⟨stream, ask, number⟩ other)
      (stream.perform ask).2 := by
  obtain ⟨waiting, rest, rfl, waits, ⟨rfl, holds⟩ | ⟨settling, others, rfl, settles, concluded, unheld⟩⟩ := fate
  · rw [List.append_nil]
    rcases Called.waits_or_settles (show Holds _ _ (Called.mk stream ask number).number _ from holds) new with
      ⟨waited, holds⟩ | ⟨settles, unheld⟩
    · refine ⟨waiting ++ [⟨stream, ask, number⟩], [], (List.append_nil _).symm, ?_, Or.inl ⟨rfl, holds⟩⟩
      exact List.forall_mem_append.mpr ⟨waits, List.forall_mem_singleton.mpr waited⟩
    · exact ⟨waiting, _, rfl, waits, Or.inr ⟨_, [], rfl, settles, List.forall_mem_nil _, unheld⟩⟩
  · rw [List.append_assoc]
    refine ⟨waiting, _, rfl, waits, Or.inr ⟨settling, others ++ [⟨stream, ask, number⟩], rfl, settles, ?_, ?_⟩⟩
    · exact List.forall_mem_append.mpr ⟨concluded, List.forall_mem_singleton.mpr unheld⟩
    · exact Called.onward_new _ new unheld

end Fate

section Steps

variable {sink after : σ} {bytes : Bytes} {reason : Stall} {error : IoError}

theorem first_poll_stalls {writer : Writer σ} {key : MasterKey} {source : SaltSource} {salt : Bytes} {session : Aead}
    {data : Bytes} (idle : writer.lock.holder = none) (fresh : writer.sealer = .fresh key source)
    (drawn : source.draw 0 key.saltSize = .ok salt) (ofSalt : key.session salt = .ok session)
    (stalls : ∀ bytes ≠ [], ByteSink.write writer.sink bytes = (.stalled reason, after)) (some : data ≠ []) :
    ∃ sealer sealed, sealed ≠ [] ∧ writer.poll (.ofRequest (.write data)) =
      ⟨.stalled reason, ⟨[], writer.lock.request.2, sealer, after⟩, .sending writer.lock.next sealed⟩ := by
  have more : writer.queued ++ data ≠ [] := fun none => some (List.append_eq_nil_iff.mp none).2
  have sealed := @Sealer.sealData_first (.fresh key source) session salt 0 rfl Nonce.zero_eq_ofNat drawn ofSalt
    (writer.queued ++ data)
  rw [← fresh] at sealed
  have full : salt ++ Wire.frames session 0 ((writer.queued ++ data).pieces Wire.longestPayload) ≠ [] :=
    fun none => Wire.frames_ne_nil session 0 more (List.append_eq_nil_iff.mp none).2
  have polled : writer.poll (.ofRequest (.write data)) =
      Writer.send ⟨[], writer.lock.request.2, _, writer.sink⟩ (.write data) writer.lock.next _ :=
    Writer.poll_seals idle more sealed
  rw [Writer.send, drain_stalls .stuck full (stalls _ full)] at polled
  exact ⟨_, _, full, polled⟩

theorem pollWrite_unfinished {stream : Duplex ρ σ} {data : Bytes} {writer : Writer σ} {stage : Stage}
    (idle : stream.inFlight = none) (some : data ≠ [])
    (stalls : stream.writer.poll (.ofRequest (.write data)) = ⟨.stalled reason, writer, stage⟩) :
    stream.pollWrite data =
      (.ready (.ok data.length), { stream with writer, inFlight := Option.some ⟨.write data, stage⟩ }) := by
  have full : ¬ data.isEmpty := fun empty => some (List.isEmpty_iff.mp empty)
  rw [pollWrite, pollInFlight_none idle]
  dsimp only
  rw [if_neg full, carry_eq, stalls]
  rfl

theorem pollInFlight_fails {stream : Duplex ρ σ} {data sealed : Bytes} {ticket : Ticket}
    (held : stream.inFlight = some ⟨.write data, .sending ticket sealed⟩) (full : sealed ≠ [])
    (failed : ByteSink.write stream.writer.sink sealed = (.ready (.error error), after))
    (final : error.kind ≠ .interrupted) :
    stream.pollInFlight = (.ready (.error error), { stream with
      writer := { stream.writer with sink := after, lock := stream.writer.lock.release }
      inFlight := none }) := by
  have polled : stream.writer.poll ⟨.write data, .sending ticket sealed⟩ =
      ⟨.ready (.error error), { stream.writer with sink := after, lock := stream.writer.lock.release }, .finished⟩ := by
    change stream.writer.send _ _ _ = _
    rw [Writer.send, drain_fails .stuck full failed final]
    rfl
  rw [pollInFlight_some held, polled]
  rfl

end Steps

variable {first last : Duplex ρ σ} {history : List (Called ρ σ)} {number : Option Nat}

/-- However the calls of a stream follow each other and whatever happens in between: behind a write that is accepted and
not finished, every call stalls until one finds it finished. If it has failed, that call fails with its very error and
has done nothing but to finish it: it has taken no data of its own. No later call finds this write again. -/
theorem Calls.failure_reported_once (calls : Calls first history number last) {earlier later : List (Called ρ σ)}
    {accepted : Called ρ σ} {data : Bytes} (among : history = earlier ++ accepted :: later)
    (write : accepted.ask = .write data) (accepts : accepted.answer = .ready (.ok ()))
    (unfinished : accepted.after.inFlight ≠ none) : Fate earlier.length data later number last := by
  induction calls generalizing later with
  | start => cases (List.append_eq_nil_iff.mp among.symm).2
  | meanwhile reader writer before ih => exact (ih among).meanwhile reader writer
  | @call history number stream ask before ih =>
      -- The call is the one that has accepted the write, or one behind it.
      rcases List.eq_nil_or_concat later with rfl | ⟨between, call, rfl⟩
      · obtain ⟨rfl, same⟩ := List.append_inj' among rfl
        cases same
        exact ⟨[], [], rfl, List.forall_mem_nil _, Or.inl ⟨rfl, Called.accepts write accepts unfinished _⟩⟩
      · rw [List.concat_eq_append, ← List.cons_append, ← List.append_assoc] at among
        obtain ⟨rfl, same⟩ := List.append_inj' among rfl
        cases same
        rw [List.concat_eq_append]
        refine (ih rfl).call ask ?_
        rw [List.length_append, List.length_cons]
        omega

theorem failure_reported_once_script :
    let key : MasterKey := ⟨⟨"aes-128-gcm", "AEAD_AES_128_GCM", .aes128Gcm⟩, []⟩
    let sink : Scripted.Sink := .ofScript [.yield, .fail (.os 32)] [] [] none
    let first : Duplex Scripted.Source Scripted.Sink :=
      ofHalves (Reader.fresh key (.ofBytes [])) (Writer.fresh key (.random fun _ _ => 7) sink)
    ∃ history number last, Calls first history number last ∧ ∃ accepted failing, history = [accepted, failing] ∧
      accepted.ask = .write [1] ∧ accepted.answer = .ready (.ok ()) ∧ failing.ask = .write [2] ∧
      failing.answer = .ready (.error (.os 32)) ∧ Fate 0 [1] [failing] number last := by
  intro key sink first
  obtain ⟨session, ofSalt⟩ := key.session_ok (SaltSource.randomBytes (fun _ _ => 7) 0 16)
  obtain ⟨sealer, sealed, full, polled⟩ := @first_poll_stalls _ _ { sink with writes := [.fail (.os 32)] } .yielded
    first.writer key (.random fun _ _ => 7) _ session [1] rfl rfl rfl ofSalt (fun bytes _ => rfl) (List.cons_ne_nil _ _)
  have wrote : first.pollWrite [1] = _ := pollWrite_unfinished rfl (List.cons_ne_nil _ _) polled
  have calls := (Calls.call (.write [1]) (@Calls.start _ _ _ first)).call (.write [2])
  have performed := perform_write wrote
  have accepts : (Called.mk first (.write [1]) none).answer = .ready (.ok ()) := congrArg Prod.fst performed
  have left : (first.perform (.write [1])).2 = _ := congrArg Prod.snd performed
  have fails : ((first.perform (.write [1])).2.perform (.write [2])).1 = .ready (.error (.os 32)) := by
    rw [left]
    exact congrArg Prod.fst (perform_failed (pollInFlight_fails rfl full rfl (by decide)) (.write [2]))
  refine ⟨_, _, _, calls, _, _, rfl, rfl, accepts, rfl, fails, ?_⟩
  refine @Calls.failure_reported_once _ _ _ _ _ _ _ calls [] _ _ _ rfl rfl accepts ?_
  rw [Called.after, left]
  exact Option.some_ne_none _

end SealedTunnel.Duplex
