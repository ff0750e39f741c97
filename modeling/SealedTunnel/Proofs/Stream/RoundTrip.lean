import SealedTunnel.Proofs.Scripted.Sink
import SealedTunnel.Proofs.Stream.Flow
import SealedTunnel.Proofs.Stream.Plaintext
import SealedTunnel.Proofs.Stream.Refinement

namespace SealedTunnel

inductive Call
  | enqueue (data : Bytes)
  | perform (request : Request)

def Call.data : Call → Bytes
  | enqueue data => data
  | perform request => request.data

namespace Writer

variable {σ : Type}

variable [ByteSink σ]

inductive Completes : Writer (Recorded σ) → Operation → Except IoError Unit → Writer (Recorded σ) → Prop
  | done {writer : Writer (Recorded σ)} {operation : Operation} {result : Except IoError Unit}
      (finished : (writer.poll operation).result = .ready result) :
      Completes writer operation result (writer.poll operation).writer
  | later {writer last : Writer (Recorded σ)} {operation : Operation} {reason : Stall} {result : Except IoError Unit}
      (sink : σ) (stalled : (writer.poll operation).result = .stalled reason)
      (rest : Completes ((writer.poll operation).writer.withSink sink)
        ⟨operation.request, (writer.poll operation).stage⟩ result last) : Completes writer operation result last

inductive Performs : Writer (Recorded σ) → List Call → Writer (Recorded σ) → Prop
  | nothing {writer : Writer (Recorded σ)} : Performs writer [] writer
  | enqueue {writer last : Writer (Recorded σ)} {calls : List Call} (data : Bytes)
      (rest : Performs (writer.enqueue data) calls last) : Performs writer (.enqueue data :: calls) last
  | perform {writer next last : Writer (Recorded σ)} {calls : List Call} (request : Request)
      (done : Completes writer (.ofRequest request) (.ok ()) next) (rest : Performs next calls last) :
      Performs writer (.perform request :: calls) last
  | meanwhile {writer last : Writer (Recorded σ)} {calls : List Call} (sink : σ)
      (rest : Performs (writer.withSink sink) calls last) : Performs writer calls last

variable {key : MasterKey} {salts : SaltSource} {writer last : Writer (Recorded σ)} {operation : Operation}
  {calls : List Call} {content : Bytes}

theorem completes_flowing {result : Except IoError Unit} (completes : Completes writer operation result last)
    (succeeds : result = .ok ()) (flowing : Flowing key salts writer [operation] content) :
    Flowing key salts last [] (content ++ operation.unsealed) ∧ last.queued = [] := by
  induction completes generalizing content with
  | @done writer operation result finished =>
      have taken := flowing.tidy.ended
      rcases flowing.poll with ⟨error, failed⟩ | ⟨later, still, same⟩
      · rw [succeeds, failed] at finished
        cases finished
      · rw [Step.left, finished] at still same taken
        rw [← same]
        refine ⟨?_, taken rfl⟩
        rw [unsealed_none, List.append_nil]
        exact still
  | @later writer last operation reason result sink stalled rest ih =>
      rcases flowing.poll with ⟨error, failed⟩ | ⟨later, still, same⟩
      · rw [failed] at stalled
        cases stalled
      · rw [Step.left, stalled] at still same
        obtain ⟨final, taken⟩ := ih succeeds (flowing_withSink sink still)
        rw [← same, unsealed_some]
        exact ⟨final, taken⟩

/-- After calls that all succeed, nothing is on its way but what was queued behind the last operation. -/
theorem performs_flowing (performs : Performs writer calls last) (flowing : Flowing key salts writer [] content) :
    Flowing key salts last [] (content ++ calls.flatMap Call.data) := by
  induction performs generalizing content with
  | nothing => rwa [List.flatMap_nil, List.append_nil]
  | enqueue data rest ih =>
      rw [List.flatMap_cons, ← List.append_assoc]
      exact ih (flowing_enqueue data flowing)
  | perform request done rest ih =>
      rw [List.flatMap_cons, ← List.append_assoc]
      exact ih (completes_flowing done rfl (flowing.add request)).1
  | meanwhile sink rest ih => exact ih (flowing_withSink sink flowing)

theorem performs_append {earlier later : List Call} (performs : Performs writer (earlier ++ later) last) :
    ∃ middle, Performs writer earlier middle ∧ Performs middle later last := by
  generalize whole : earlier ++ later = calls at performs
  induction performs generalizing earlier with
  | nothing =>
      obtain ⟨rfl, rfl⟩ := List.append_eq_nil_iff.mp whole
      exact ⟨_, .nothing, .nothing⟩
  | @enqueue writer last calls data rest ih =>
      cases earlier with
      | nil =>
          rw [List.nil_append] at whole
          exact ⟨writer, .nothing, whole ▸ .enqueue data rest⟩
      | cons call earlier =>
          obtain ⟨rfl, same⟩ := List.cons.inj whole
          obtain ⟨middle, before, after⟩ := ih same
          exact ⟨middle, .enqueue data before, after⟩
  | @perform writer next last calls request done rest ih =>
      cases earlier with
      | nil =>
          rw [List.nil_append] at whole
          exact ⟨writer, .nothing, whole ▸ .perform request done rest⟩
      | cons call earlier =>
          obtain ⟨rfl, same⟩ := List.cons.inj whole
          obtain ⟨middle, before, after⟩ := ih same
          exact ⟨middle, .perform request done before, after⟩
  | meanwhile sink rest ih =>
      obtain ⟨middle, before, after⟩ := ih whole
      exact ⟨middle, .meanwhile sink before, after⟩

theorem queued_nothing (performs : Performs writer calls last) (none : calls = []) : last.queued = writer.queued := by
  induction performs with
  | nothing => rfl
  | enqueue | perform => cases none
  | meanwhile sink rest ih => exact ih none

theorem queued_perform {request : Request} (flowing : Flowing key salts writer [] content)
    (performs : Performs writer calls last) (one : calls = [.perform request]) : last.queued = [] := by
  induction performs generalizing content with
  | nothing | enqueue => cases one
  | perform other done rest ih =>
      cases one
      exact (queued_nothing rest rfl).trans (completes_flowing done rfl (flowing.add request)).2
  | meanwhile sink rest ih => exact ih (flowing_withSink sink flowing) one

section Success

variable {good : σ → Prop}

theorem completes_ok (behaves : Behaves (· = .finished) good) (able : salts.IsAble key) (request : Request)
    (flowing : Flowing key salts writer [] content) (here : good writer.sink.sink) :
    ∃ next, Completes writer (.ofRequest request) (.ok ()) next ∧ good next.sink.sink := by
  obtain ⟨there, finished⟩ := (flowing.add request).transit.poll_behaves behaves rfl (Or.inr rfl) able here
  exact ⟨_, .done (Poll.outcome_eq_finished.mp finished), there⟩

theorem performs_all (behaves : Behaves (· = .finished) good) (able : salts.IsAble key) (calls : List Call)
    (flowing : Flowing key salts writer [] content) (here : good writer.sink.sink) :
    ∃ last, Performs writer calls last := by
  induction calls generalizing writer content with
  | nil => exact ⟨writer, .nothing⟩
  | cons call calls ih =>
      cases call with
      | enqueue data =>
          obtain ⟨last, rest⟩ := ih (flowing_enqueue data flowing) here
          exact ⟨last, .enqueue data rest⟩
      | perform request =>
          obtain ⟨next, done, there⟩ := completes_ok behaves able request flowing here
          obtain ⟨last, rest⟩ := ih (completes_flowing done rfl (flowing.add request)).1 there
          exact ⟨last, .perform request done rest⟩

end Success
end Writer

variable {σ : Type} [ByteSink σ] {key : MasterKey} {salts : SaltSource} {sink : σ} {earlier : List Call}
  {request : Request} {last : Writer (Recorded σ)}

/-- Calls that all succeed, the last of which sends what there is, put their data on the wire as the
payloads of chunks. A reader of the wire, in any pieces, delivers all of the data and then tells the end.
A reader of its first bytes, up to any offset, delivers the payloads of the chunks that end there or before
and tells whether the stream was cut off. -/
theorem round_trip
    (performed : Writer.Performs (Writer.fresh key salts ⟨sink, []⟩) (earlier ++ [Call.perform request]) last) :
    let data := (earlier ++ [Call.perform request]).flatMap Call.data
    let wire := last.sink.wire
    (∀ (ρ : Type) [ByteSource ρ] (source : ρ), Yields source wire → ∀ rooms,
        Reading.Tell data .whole ((Reader.fresh key (⟨source, []⟩ : Heard ρ)).reads rooms).1) ∧
      ∃ payloads, payloads.flatten = data ∧ last.sealer.Wrote key salts payloads wire ∧
        ∀ offset ≤ wire.length, ∀ (ρ : Type) [ByteSource ρ] (source : ρ), Yields source (wire.take offset) → ∀ rooms,
          Reading.Tell (Wire.cut key.saltSize payloads offset).1.flatten (Wire.cut key.saltSize payloads offset).2
            ((Reader.fresh key (⟨source, []⟩ : Heard ρ)).reads rooms).1 := by
  intro data wire
  have fresh := Writer.flowing_fresh key salts sink
  obtain ⟨middle, before, ending⟩ := Writer.performs_append performed
  have taken := Writer.queued_perform (Writer.performs_flowing before fresh) ending rfl
  have flowing := Writer.performs_flowing performed fresh
  obtain ⟨payloads, wrote, same⟩ := flowing.flow_idle (List.forall_mem_nil _)
  rw [List.append_nil] at wrote
  rw [taken, List.append_nil, List.nil_append] at same
  refine ⟨?_, payloads, same, wrote, ?_⟩
  · intro ρ _ source has rooms
    have told := (Reader.reads_follow_decode key has rooms).tell
    have decoded := wrote.decode_take wire.length (Nat.le_refl _)
    rw [List.take_length, wrote.cut_all] at decoded
    rwa [decoded, same] at told
  · intro offset inside ρ _ source has rooms
    have told := (Reader.reads_follow_decode key has rooms).tell
    rwa [wrote.decode_take offset inside] at told

theorem round_trip_script :
    let key : MasterKey := ⟨⟨"aes-128-gcm", "AEAD_AES_128_GCM", .aes128Gcm⟩, []⟩
    let calls := [Call.enqueue [1, 2], Call.perform (.write [3])] ++ [Call.perform .shutdown]
    ∃ last : Writer (Recorded Scripted.Sink),
      Writer.Performs (Writer.fresh key (.random fun _ _ => 7) ⟨.ofScript [] [] [] none, []⟩) calls last ∧
        ∀ (ρ : Type) [ByteSource ρ] (source : ρ), Yields source last.sink.wire → ∀ rooms,
          Reading.Tell [1, 2, 3] .whole ((Reader.fresh key (⟨source, []⟩ : Heard ρ)).reads rooms).1 := by
  intro key calls
  have able : (SaltSource.random fun _ _ => 7).IsAble key := fun attempt => ⟨_, rfl⟩
  have fresh := Writer.flowing_fresh key (.random fun _ _ => 7) (Scripted.Sink.ofScript [] [] [] none)
  obtain ⟨last, performed⟩ :=
    Writer.performs_all Scripted.Sink.behaves_isOpen able calls fresh ⟨rfl, rfl, rfl, rfl⟩
  exact ⟨last, performed, (round_trip performed).1⟩

end SealedTunnel
