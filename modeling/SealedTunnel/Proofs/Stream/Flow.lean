import SealedTunnel.Proofs.Stream.Transit

/-!
Where data is on its way to the wire: queued, sealed and not yet accepted by the sink, or accepted. An
operation that has its turn moves it on, and neither loses nor doubles any.
-/
namespace SealedTunnel

section Flow

variable {σ : Type} (key : MasterKey) (salts : SaltSource)

/-- What is sealed is on the wire but for a `rest`; with what is queued it makes up the `content`. -/
def Flow (writer : Writer (Recorded σ)) (rest content : Bytes) : Prop :=
  ∃ payloads, writer.sealer.Wrote key salts payloads (writer.sink.wire ++ rest) ∧
    payloads.flatten ++ writer.queued = content

variable {key salts} {writer : Writer (Recorded σ)} {rest content : Bytes}

theorem passage_iff_flow : Passage key salts [] writer rest content ↔ Flow key salts writer rest content := by
  constructor
  · rintro ⟨payloads, stream, wrote, mended, same⟩
    cases Wire.mended_iff.mp mended
    exact ⟨payloads, wrote, same⟩
  · rintro ⟨payloads, wrote, same⟩
    exact ⟨payloads, writer.sink.wire, wrote, Wire.mended_iff.mpr rfl, same⟩

end Flow

/-- Operations at one writer, and the data that it has taken from them so far. Only the one at work has
sealed bytes that are not on the wire. -/
structure Flowing {σ : Type} (key : MasterKey) (salts : SaltSource) (writer : Writer (Recorded σ))
    (operations : List Operation) (content : Bytes) : Prop where
  tidy : Tidy writer operations
  flow : ∃ rest, Flow key salts writer rest content ∧
    (∀ operation ∈ operations, operation.stage.isActive → operation.stage.rest = rest) ∧
    ((∀ operation ∈ operations, operation.stage.isActive = false) → rest = [])

namespace Flowing

variable {σ : Type} {key : MasterKey} {salts : SaltSource} {writer : Writer (Recorded σ)}
  {operation : Operation} {operations others : List Operation} {content : Bytes}

theorem transit (flowing : Flowing key salts writer operations content) :
    Transit key salts [] writer operations content := by
  obtain ⟨tidy, rest, flow, active⟩ := flowing
  exact ⟨tidy.crew, rest, passage_iff_flow.mpr flow, active⟩

theorem of_transit (tidy : Tidy writer operations) (transit : Transit key salts [] writer operations content) :
    Flowing key salts writer operations content := by
  obtain ⟨-, rest, passage, active⟩ := transit
  exact ⟨tidy, rest, passage_iff_flow.mp passage, active⟩

theorem perm (flowing : Flowing key salts writer operations content) (same : operations.Perm others) :
    Flowing key salts writer others content :=
  of_transit (flowing.tidy.perm same) (flowing.transit.perm same)

theorem add (flowing : Flowing key salts writer operations content) (request : Request) :
    Flowing key salts writer (.ofRequest request :: operations) content :=
  of_transit (flowing.tidy.add request) (flowing.transit.add request)

theorem flow_idle (flowing : Flowing key salts writer operations content)
    (idle : ∀ operation ∈ operations, operation.stage.isActive = false) : Flow key salts writer [] content :=
  passage_iff_flow.mp (flowing.transit.passage_idle idle)

/-- If operations are given up while none of them is at work, the others go on; otherwise nothing is left for
the others to send. -/
theorem cancels (flowing : Flowing key salts writer (operations ++ others) content) :
    Flowing key salts (operations.foldl Writer.cancel writer) others content ∨
      (operations.foldl Writer.cancel writer).queued = [] ∧ ∀ other ∈ others, other.stage.isActive = false := by
  obtain ⟨queued, sealer, sink⟩ := writer.cancels_keep operations
  obtain ⟨tidy, rest, ⟨payloads, wrote, same⟩, active, idle⟩ := flowing
  by_cases working : ∃ operation ∈ operations, operation.stage.isActive
  · obtain ⟨operation, mem, working⟩ := working
    obtain ⟨none, others⟩ := tidy.alone mem working
    exact Or.inr ⟨queued.trans none, others⟩
  · refine Or.inl ⟨tidy.cancels, rest, ⟨payloads, ?_, ?_⟩, ?_, ?_⟩
    · rwa [sealer, sink]
    · rwa [queued]
    · exact fun other mem => active other (List.mem_append_right _ mem)
    · intro none
      refine idle (fun operation mem => ?_)
      rcases List.mem_append.mp mem with mem | mem
      · exact Bool.eq_false_iff.mpr (fun works => working ⟨operation, mem, works⟩)
      · exact none operation mem

theorem poll [ByteSink σ] (flowing : Flowing key salts writer (operation :: others) content) :
    (∃ error, (writer.poll operation).result = .ready (.error error)) ∨
      ∃ later, Flowing key salts (writer.poll operation).writer
          (((writer.poll operation).left operation.request).toList ++ others) later ∧
        later ++ unsealed ((writer.poll operation).left operation.request).toList = content ++ operation.unsealed := by
  obtain ⟨⟨later, transit, same⟩, unfailed⟩ := flowing.transit.poll
  by_cases failed : (writer.poll operation).result.outcome = .failed
  · exact Or.inl (Poll.outcome_eq_failed.mp failed)
  · have lossless := unfailed failed
    rw [gapsIn_lossless lossless] at transit
    exact Or.inr ⟨later, of_transit flowing.tidy.poll transit, same lossless⟩

end Flowing

namespace Writer

variable {σ : Type}

variable {key : MasterKey} {salts : SaltSource} {writer : Writer (Recorded σ)} {content : Bytes}

theorem flowing_fresh (key : MasterKey) (salts : SaltSource) (sink : σ) :
    Flowing key salts (fresh key salts ⟨sink, []⟩) [] [] :=
  .of_transit ⟨.none, List.forall_mem_nil _⟩ (.fresh key salts sink)

theorem flowing_withSink {operations : List Operation} (sink : σ)
    (flowing : Flowing key salts writer operations content) :
    Flowing key salts (writer.withSink sink) operations content :=
  .of_transit ⟨flowing.tidy.crew, flowing.tidy.taken⟩ (flowing.transit.withSink sink)

theorem flowing_enqueue (data : Bytes) (flowing : Flowing key salts writer [] content) :
    Flowing key salts (writer.enqueue data) [] (content ++ data) :=
  .of_transit ⟨flowing.tidy.crew, List.forall_mem_nil _⟩ (flowing.transit.enqueue data)

end Writer
end SealedTunnel
