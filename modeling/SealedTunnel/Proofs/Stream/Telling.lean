import SealedTunnel.Proofs.Stream.Carrying

/-!
Errors are told. Where the errors that are still to come stand in a list, a call that takes some from it fails with them;
so do the writer, the stream and the reader above it. Only an interrupted write is made again and not spoken of.
-/
namespace SealedTunnel

section Tells

variable {ε α β : Type}

def Poll.failure? : Poll (Except ε α) → Option ε
  | .ready (.error error) => some error
  | _ => none

def failureOf : Option (Except ε α) → Option ε
  | some (.error error) => some error
  | _ => none

/-- The errors in front of a list have been raised, and each of them is the failure unless it is excused. -/
def Tells (excused : ε → Prop) (failure : Option ε) (before after : List ε) : Prop :=
  ∃ raised, before = raised ++ after ∧ ∀ error ∈ raised, excused error ∨ failure = some error

def Raised (before after : List ε) (error : ε) : Prop := ∃ raised, before = raised ++ after ∧ error ∈ raised

variable {excused wider : ε → Prop} {failure : Option ε} {before middle after : List ε} {error : ε}

theorem tells_same (excused : ε → Prop) (failure : Option ε) (errors : List ε) : Tells excused failure errors errors :=
  ⟨[], rfl, List.forall_mem_nil _⟩

theorem tells_of_eq (same : after = before) : Tells excused failure before after := same ▸ tells_same excused failure after

theorem tells_first (excused : ε → Prop) (error : ε) (errors : List ε) :
    Tells excused (some error) (error :: errors) errors :=
  ⟨[error], rfl, List.forall_mem_singleton.mpr (Or.inr rfl)⟩

namespace Tells

theorem weaken (tells : Tells excused failure before after) (weaker : ∀ error, excused error → wider error) :
    Tells wider failure before after := by
  obtain ⟨raised, split, told⟩ := tells
  exact ⟨raised, split, fun error member => (told error member).imp_left (weaker error)⟩

theorem spare (tells : Tells excused (some error) before after) (spared : excused error) (failure : Option ε) :
    Tells excused failure before after := by
  obtain ⟨raised, split, told⟩ := tells
  refine ⟨raised, split, fun other member => Or.inl ?_⟩
  rcases told other member with fine | same
  · exact fine
  · cases same
    exact spared

theorem trans (first : Tells excused none before middle) (second : Tells excused failure middle after) :
    Tells excused failure before after := by
  obtain ⟨raised, rfl, fine⟩ := first
  obtain ⟨more, rfl, told⟩ := second
  refine ⟨raised ++ more, (List.append_assoc _ _ _).symm, List.forall_mem_append.mpr ⟨?_, told⟩⟩
  intro error member
  rcases fine error member with excuse | none
  · exact Or.inl excuse
  · cases none

theorem failed (tells : Tells excused failure before after) (raised : Raised before after error)
    (inexcusable : ¬ excused error) : failure = some error := by
  obtain ⟨errors, split, told⟩ := tells
  obtain ⟨others, again, member⟩ := raised
  cases List.append_cancel_right (split.symm.trans again)
  exact (told error member).resolve_left inexcusable

theorem map (tells : Tells (fun _ => False) failure before after) (explain : ε → α) :
    Tells (fun _ => False) (failure.map explain) (before.map explain) (after.map explain) := by
  obtain ⟨raised, rfl, told⟩ := tells
  refine ⟨raised.map explain, List.map_append, List.forall_mem_map.mpr fun error member => Or.inr ?_⟩
  rw [(told error member).resolve_left id, Option.map_some]

end Tells

theorem Raised.irrefl : ¬ Raised before before error := by
  rintro ⟨raised, same, member⟩
  rw [List.self_eq_append_left.mp same] at member
  cases member

/-- Of two kinds of errors that are still to come, those of one kind are told and the others stay. -/
def Shows {γ : Type} (told kept : γ → List ε) (excused : ε → Prop) (failure : Option ε) (before after : γ) : Prop :=
  Tells excused failure (told before) (told after) ∧ kept after = kept before

namespace Shows

variable {γ : Type} {told kept : γ → List ε} {first second third : γ}

theorem of_eq (same : told second = told first) (still : kept second = kept first) :
    Shows told kept excused failure first second :=
  ⟨tells_of_eq same, still⟩

theorem refl (excused : ε → Prop) (failure : Option ε) (first : γ) : Shows told kept excused failure first first :=
  of_eq rfl rfl

theorem trans (before : Shows told kept excused none first second) (after : Shows told kept excused failure second third) :
    Shows told kept excused failure first third :=
  ⟨before.1.trans after.1, after.2.trans before.2⟩

theorem spare (shown : Shows told kept excused (some error) first second) (spared : excused error) :
    Shows told kept excused none first second :=
  ⟨shown.1.spare spared none, shown.2⟩

theorem map (shown : Shows told kept (fun _ => False) failure first second) (explain : ε → α) :
    Shows (fun line => (told line).map explain) (fun line => (kept line).map explain) (fun _ => False)
      (failure.map explain) first second :=
  ⟨shown.1.map explain, congrArg (List.map explain) shown.2⟩

end Shows
end Tells

section Sinks

variable {ρ σ : Type}

/-- What a call at a sink takes from these errors it fails with, but for interruptions. -/
def Told (faults : σ → List IoError) {α : Type} (before : σ) (answer : Poll (Except IoError α)) (after : σ) : Prop :=
  Tells (·.kind = .interrupted) answer.failure? (faults before) (faults after)

structure Telling [ByteSink σ] (faults : σ → List IoError) : Prop where
  write : ∀ (sink : σ) (bytes : Bytes), Told faults sink (ByteSink.write sink bytes).1 (ByteSink.write sink bytes).2
  flush : ∀ sink : σ, Told faults sink (ByteSink.flush sink).1 (ByteSink.flush sink).2
  shutdown : ∀ sink : σ, Told faults sink (ByteSink.shutdown sink).1 (ByteSink.shutdown sink).2

variable [ByteSink σ] {faults : σ → List IoError}

namespace Telling

theorem drain (telling : Telling faults) (stuck : IoError) (sink : σ) (bytes : Bytes) :
    Told faults sink (drain stuck sink bytes).1 (SealedTunnel.drain stuck sink bytes).2.2 := by
  have writes : ∀ {sink next : σ} {bytes : Bytes} {answer : Poll (Except IoError Nat)},
      ByteSink.write sink bytes = (answer, next) → Told faults sink answer next := by
    intro sink next bytes answer written
    have told := telling.write sink bytes
    rwa [written] at told
  fun_induction SealedTunnel.drain stuck sink bytes with
  | case1 sink => exact tells_same _ _ _
  | case2 _ _ _ _ _ written | case4 _ _ _ _ _ written => exact writes written
  | case3 _ _ _ _ _ written interrupted ih => exact ((writes written).spare interrupted none).trans ih
  | case5 _ _ _ _ written => exact (writes written).trans (tells_same _ _ _)
  | case6 _ _ _ _ _ written ih => exact (writes written).trans ih

theorem close (telling : Telling faults) (request : Request) (sink : σ) :
    Told faults sink (request.close sink).1 (request.close sink).2 := by
  cases request with
  | write => exact tells_same _ _ _
  | flush => exact telling.flush sink
  | shutdown => exact telling.shutdown sink

theorem finish (telling : Telling faults) (writer : Writer σ) (request : Request) (ticket : Ticket) :
    Told faults writer.sink (writer.finish request ticket).result (writer.finish request ticket).writer.sink := by
  have told := telling.close request writer.sink
  rw [Writer.finish_eq]
  split <;> rename_i closed <;> rw [closed] at told <;> exact told

theorem send (telling : Telling faults) (writer : Writer σ) (request : Request) (ticket : Ticket) (rest : Bytes) :
    Told faults writer.sink (writer.send request ticket rest).result (writer.send request ticket rest).writer.sink := by
  have told := telling.drain .stuck writer.sink rest
  unfold Writer.send
  split
  · rename_i stalled
    rwa [stalled] at told
  · rename_i failed
    rwa [failed] at told
  · rename_i sent
    rw [sent] at told
    exact told.trans (telling.finish _ request ticket)

theorem start (telling : Telling faults) (writer : Writer σ) (request : Request) (ticket : Ticket) :
    Told faults writer.sink (writer.start request ticket).result (writer.start request ticket).writer.sink := by
  unfold Writer.start
  dsimp only
  split
  · exact telling.finish { writer with queued := [] } request ticket
  · split
    · exact tells_same _ _ _
    · exact telling.send _ request ticket _

theorem poll (telling : Telling faults) (writer : Writer σ) (operation : Operation) :
    Told faults writer.sink (writer.poll operation).result (writer.poll operation).writer.sink := by
  unfold Writer.poll
  dsimp only
  split
  · split
    · exact telling.start { writer with lock := writer.lock.request.2 } operation.request _
    · exact tells_same _ _ _
  · split
    · exact telling.start writer operation.request _
    · exact tells_same _ _ _
  · exact telling.send writer operation.request _ _
  · exact telling.finish writer operation.request _
  · exact tells_same _ _ _

theorem pollInFlight (telling : Telling faults) (stream : Duplex ρ σ) :
    Told faults stream.writer.sink stream.pollInFlight.1 stream.pollInFlight.2.writer.sink := by
  unfold Duplex.pollInFlight
  cases stream.inFlight with
  | none => exact tells_same _ _ _
  | some operation =>
      dsimp only
      rw [Duplex.carry_eq]
      exact telling.poll stream.writer operation

theorem pollWrite (telling : Telling faults) (stream : Duplex ρ σ) (data : Bytes) :
    Told faults stream.writer.sink (stream.pollWrite data).1 (stream.pollWrite data).2.writer.sink := by
  have before := telling.pollInFlight stream
  unfold Duplex.pollWrite
  generalize stream.pollInFlight = found at before
  obtain ⟨(error | done) | reason, next⟩ := found
  · exact before
  · dsimp only
    split
    · exact before
    · rw [Duplex.carry_eq]
      have told := telling.poll next.writer (.ofRequest (.write data))
      dsimp only
      split <;> rename_i polled <;> rw [polled] at told <;> exact Tells.trans before told
  · exact before

theorem pollSlot (telling : Telling faults) (stream : Duplex ρ σ) (slot : Duplex.Slot) :
    Told faults stream.writer.sink (slot.poll stream).1 (slot.poll stream).2.writer.sink := by
  have before := telling.pollInFlight stream
  rw [Duplex.Slot.poll_eq]
  generalize stream.pollInFlight = found at before
  obtain ⟨(error | done) | reason, next⟩ := found
  · exact before
  · dsimp only
    rw [Duplex.Slot.writer_store]
    exact Tells.trans before (telling.poll next.writer _)
  · exact before

theorem duplex (telling : Telling faults) : Telling fun stream : Duplex ρ σ => faults stream.writer.sink where
  write := telling.pollWrite
  flush stream := telling.pollSlot stream .flush
  shutdown stream := telling.pollSlot stream .shutdown

end Telling
end Sinks

section Sources

variable {ρ : Type}

def ToldAll (faults : ρ → List IoError) {α : Type} (before : ρ) (answer : Poll (Except IoError α)) (after : ρ) : Prop :=
  Tells (fun _ => False) answer.failure? (faults before) (faults after)

def TellingAll [ByteSource ρ] (faults : ρ → List IoError) : Prop :=
  ∀ (source : ρ) (room : Nat), ToldAll faults source (ByteSource.read source room).1 (ByteSource.read source room).2

def Gathered.failure? : Gathered → Option IoError
  | .failed error => some error
  | _ => none

def Reader.Round.Tells (faults : ρ → List IoError) (before : ρ) : Round ρ → Prop
  | .answer result reader => ToldAll faults before result reader.source
  | .again next => SealedTunnel.Tells (fun _ => False) none (faults before) (faults next.source)

variable [ByteSource ρ] {faults : ρ → List IoError}

namespace TellingAll

theorem gather (telling : TellingAll faults) (source : ρ) (buffer : Bytes) (needed : Nat) :
    Tells (fun _ => False) (gather source buffer needed).1.failure? (faults source)
      (faults (SealedTunnel.gather source buffer needed).2.1) := by
  have reads : ∀ {source next : ρ} {room : Nat} {answer : Poll (Except IoError Bytes)},
      ByteSource.read source room = (answer, next) → ToldAll faults source answer next := by
    intro source next room answer read
    have told := telling source room
    rwa [read] at told
  fun_induction SealedTunnel.gather source buffer needed with
  | case1 => exact tells_same _ _ _
  | case2 _ _ _ _ _ read | case3 _ _ _ _ _ read | case4 _ _ _ _ read => exact reads read
  | case5 _ _ _ _ _ _ read ih => exact Tells.trans (reads read) ih

theorem withBytes (telling : TellingAll faults) (reader : Reader ρ) (needed : Nat) {next atEnd : Reader ρ → Reader.Round ρ}
    (goes : ∀ other : Reader ρ, (next other).Tells faults other.source)
    (ends : ∀ other : Reader ρ, (atEnd other).Tells faults other.source) :
    (reader.withBytes needed next atEnd).Tells faults reader.source := by
  have gathered := telling.gather reader.source reader.buffer needed
  -- What follows the gathering is told behind what was gathered without a failure.
  have behind : ∀ {source : ρ} {round : Reader.Round ρ}, Tells (fun _ => False) none (faults reader.source) (faults source) →
      round.Tells faults source → round.Tells faults reader.source := by
    intro source round before told
    cases round with
    | answer => exact before.trans told
    | again => exact before.trans told
  unfold Reader.withBytes
  split <;> rename_i came <;> rw [came] at gathered
  · exact gathered
  · exact gathered
  · exact behind gathered (ends _)
  · exact behind gathered (goes _)

omit [ByteSource ρ] in
theorem source_openFront {reader next : Reader ρ} {length : Nat} {result : Except IoError Bytes}
    (opened : reader.openFront length = (result, next)) : next.source = reader.source := by
  obtain ⟨_, _, same⟩ | ⟨_, -, same⟩ := reader.openFront_cases length <;> cases same.symm.trans opened <;> rfl

theorem round (telling : TellingAll faults) (reader : Reader ρ) : reader.round.Tells faults reader.source := by
  have ends : ∀ other : Reader ρ, other.endOfSource.Tells faults other.source := by
    intro other
    unfold Reader.endOfSource
    split <;> exact tells_same _ _ _
  unfold Reader.round
  split
  · exact tells_same _ _ _
  · exact tells_same _ _ _
  · refine telling.withBytes reader _ (fun other => ?_) ends
    unfold Reader.beginSession
    dsimp only
    split <;> exact tells_same _ _ _
  · refine telling.withBytes reader _ (fun other => ?_) ends
    unfold Reader.openLength
    split <;> rename_i opened <;> have same := source_openFront opened <;> exact tells_of_eq (congrArg faults same)
  · refine telling.withBytes reader _ (fun other => ?_) fun other => tells_same _ _ _
    unfold Reader.openPayload
    split <;> rename_i opened <;> have same := source_openFront opened <;> exact tells_of_eq (congrArg faults same)

theorem reader (telling : TellingAll faults) : TellingAll fun reader : Reader ρ => faults reader.source := by
  intro reader room
  change ToldAll _ reader (reader.poll room).1 (reader.poll room).2
  fun_induction Reader.poll reader room with
  | case1 | case2 => exact tells_same _ _ _
  | case3 reader _ _ result next came =>
      have told := telling.round reader
      rwa [came] at told
  | case4 reader _ _ next came ih =>
      have told := telling.round reader
      rw [came] at told
      exact Tells.trans told ih

end TellingAll
end Sources
end SealedTunnel
