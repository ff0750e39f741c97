import SealedTunnel.Proofs.Stream.Noting

/-!
Data on its way to the wire, whatever becomes of it: what is sealed is accepted by the sink, on its way to it or given
up, and given up it leaves a gap. Without a loss, data that an operation takes is neither lost nor doubled.
-/
namespace SealedTunnel

namespace Wire

/-- On the wire these gaps are missing from the stream. -/
inductive Mended : (gaps : List Bytes) → (wire stream : Bytes) → Prop
  | nothing : Mended [] [] []
  | sent {gaps : List Bytes} {wire stream : Bytes} (bytes : Bytes) (before : Mended gaps wire stream) :
      Mended gaps (wire ++ bytes) (stream ++ bytes)
  | lost {gaps : List Bytes} {wire stream : Bytes} (gap : Bytes) (before : Mended gaps wire stream) :
      Mended (gaps ++ [gap]) wire (stream ++ gap)

variable {gaps : List Bytes} {wire stream : Bytes}

theorem Mended.eq (mended : Mended gaps wire stream) (none : ∀ gap ∈ gaps, gap = []) : wire = stream := by
  induction mended with
  | nothing => rfl
  | sent bytes before ih => rw [ih none]
  | lost gap before ih =>
      have empty : gap = [] := none gap (by simp)
      have same := ih fun other member => none other (List.mem_append_left _ member)
      rw [empty, List.append_nil, same]

theorem mended_iff : Mended [] wire stream ↔ wire = stream := by
  constructor
  · intro mended
    exact mended.eq (List.forall_mem_nil _)
  · rintro rfl
    exact Mended.nothing.sent wire

end Wire

theorem Sealer.Wrote.origin {key : MasterKey} {salts : SaltSource} {sealer : Sealer} {payloads : List Bytes}
    {bytes : Bytes} (wrote : sealer.Wrote key salts payloads bytes) : sealer.key = key ∧ sealer.salts = salts := by
  cases wrote with
  | nothing ofKey ofSalts => exact ⟨ofKey, ofSalts⟩
  | begun ofKey ofSalts => exact ⟨ofKey, ofSalts⟩

/-- Another salt that was asked for in vain makes no difference. -/
theorem Sealer.Wrote.again {key : MasterKey} {salts : SaltSource} {sealer : Sealer} {payloads : List Bytes}
    {bytes : Bytes} (wrote : sealer.Wrote key salts payloads bytes) :
    Sealer.Wrote key salts { sealer with attempts := sealer.attempts + 1 } payloads bytes := by
  cases wrote with
  | nothing ofKey ofSalts unbegun nonce none empty => exact .nothing ofKey ofSalts unbegun nonce none empty
  | begun ofKey ofSalts drawn ofSalt begun nonce sendable encoded =>
      exact .begun ofKey ofSalts drawn ofSalt begun nonce sendable encoded

theorem Sealer.Wrote.seal_lossless {key : MasterKey} {salts : SaltSource} {sealer after : Sealer}
    {payloads : List Bytes} {bytes data sealed : Bytes} (wrote : sealer.Wrote key salts payloads bytes)
    (done : sealer.sealData data = (.ok sealed, after)) :
    Lossless (sealer.sealDataNoted data).notes := by
  cases wrote with
  | nothing ofKey ofSalts unbegun nonce none empty =>
      rw [Nonce.zero_eq_ofNat] at nonce
      cases drawn : sealer.salts.draw sealer.attempts sealer.key.saltSize with
      | error fault =>
          rw [sealData_unsalted unbegun drawn] at done
          cases done
      | ok salt =>
          obtain ⟨session, ofSalt⟩ := sealer.key.session_ok salt
          rw [notes_sealDataNoted_first unbegun nonce drawn ofSalt]
          exact List.forall_mem_cons.mpr ⟨rfl, lossless_sealed _⟩
  | begun ofKey ofSalts drawn ofSalt begun nonce sendable encoded =>
      rw [notes_sealDataNoted_begun begun nonce]
      exact lossless_sealed _

def Operation.unsealed (operation : Operation) : Bytes :=
  if operation.stage.isActive then [] else operation.request.data

theorem Operation.unsealed_active {operation : Operation} (active : operation.stage.isActive) :
    operation.unsealed = [] := if_pos active

theorem Operation.unsealed_idle {operation : Operation} (idle : operation.stage.isActive = false) :
    operation.unsealed = operation.request.data := if_neg (Bool.eq_false_iff.mp idle)

theorem Operation.unsealed_bare {operation : Operation} (bare : operation.request.data = []) :
    operation.unsealed = [] := by
  unfold unsealed
  split
  · rfl
  · exact bare

def unsealed (operations : List Operation) : Bytes := operations.flatMap Operation.unsealed

theorem unsealed_none : unsealed (none : Option Operation).toList = [] := rfl

theorem unsealed_some (operation : Operation) : unsealed (some operation).toList = operation.unsealed :=
  List.flatMap_singleton _ _

def Step.unsent {σ : Type} (step : Step σ) : Bytes :=
  match step.result with
  | .stalled _ => step.stage.rest
  | .ready _ => []

section Passage

variable {σ : Type} (key : MasterKey) (salts : SaltSource)

/-- What is sealed is on the wire but for the gaps and a `rest`; with what is queued it makes up the `content`. -/
def Passage (missing : List Bytes) (writer : Writer (Recorded σ)) (rest content : Bytes) : Prop :=
  ∃ payloads stream, writer.sealer.Wrote key salts payloads (stream ++ rest) ∧
    Wire.Mended missing writer.sink.wire stream ∧ payloads.flatten ++ writer.queued = content

/-- What is given up leaves a gap. The content is the same unless something is lost, and then the step fails. -/
structure Noted.Passes (missing : List Bytes) (content : Bytes) (noted : Noted (Step (Recorded σ))) : Prop where
  passage : ∃ later, Passage key salts (missing ++ gapsIn noted.notes) noted.value.writer noted.value.unsent later ∧
    (Lossless noted.notes → later = content)
  lossless : noted.value.result.outcome ≠ .failed → Lossless noted.notes

variable {key salts} [ByteSink σ] {writer : Writer (Recorded σ)} {missing : List Bytes} {rest content : Bytes}

omit [ByteSink σ] in
theorem passage_withSink {sink : Recorded σ} (wire : sink.wire = writer.sink.wire)
    (passage : Passage key salts missing writer rest content) :
    Passage key salts missing { writer with sink } rest content := by
  obtain ⟨payloads, stream, wrote, mended, same⟩ := passage
  exact ⟨payloads, stream, wrote, wire ▸ mended, same⟩

omit [ByteSink σ] in
theorem passes_pure {step : Step (Recorded σ)} (passage : Passage key salts missing step.writer step.unsent content) :
    (pure step : Noted (Step (Recorded σ))).Passes key salts missing content := by
  refine ⟨⟨content, ?_, fun _ => rfl⟩, fun _ => List.forall_mem_nil _⟩
  have none : missing ++ gapsIn (pure step : Noted (Step (Recorded σ))).notes = missing := List.append_nil missing
  rw [none]
  exact passage

omit [ByteSink σ] in
theorem passes_bind {α : Type} {first : Noted α} {next : α → Noted (Step (Recorded σ))} (middle : Bytes)
    (none : gapsIn first.notes = []) (same : Lossless first.notes → middle = content)
    (lossless : (next first.value).value.result.outcome ≠ .failed → Lossless first.notes)
    (after : (next first.value).Passes key salts missing middle) :
    (first >>= next).Passes key salts missing content := by
  obtain ⟨⟨later, passage, unlost⟩, afterwards⟩ := after
  refine ⟨⟨later, ?_, ?_⟩, fun succeeds => List.forall_mem_append.mpr ⟨lossless succeeds, afterwards succeeds⟩⟩
  · rw [Noted.notes_bind, gapsIn_append, none, List.nil_append]
    exact passage
  · intro lossless
    obtain ⟨before, behind⟩ := List.forall_mem_append.mp lossless
    exact (unlost behind).trans (same before)

theorem finish_passes (request : Request) (ticket : Ticket) (passage : Passage key salts missing writer [] content) :
    Passage key salts missing (writer.finish request ticket).writer (writer.finish request ticket).unsent content := by
  rw [Writer.finish_eq]
  split
  · rename_i result sink closed
    have moved := passage_withSink (Recorded.wire_close closed) passage
    exact moved
  · rename_i reason sink closed
    have moved := passage_withSink (Recorded.wire_close closed) passage
    exact moved

theorem send_passes (request : Request) (ticket : Ticket) (passage : Passage key salts missing writer rest content) :
    (writer.sendNoted request ticket rest).Passes key salts missing content := by
  obtain ⟨payloads, stream, wrote, mended, same⟩ := passage
  obtain ⟨moved, wire, split⟩ := drain_moves .stuck writer.sink rest
  have finished : ∀ left sink, drain .stuck writer.sink rest = (.ready (.ok ()), left, sink) → left = [] :=
    fun _ _ done => rest_drain done
  -- What has moved is on the wire and in the stream, behind what was there.
  have onward := mended.sent moved
  rw [← wire] at onward
  rw [split, ← List.append_assoc] at wrote
  unfold Writer.sendNoted
  generalize drain .stuck writer.sink rest = drained at onward wrote finished
  obtain ⟨(error | done) | reason, left, sink⟩ := drained
  · have whole : writer.sealer.Wrote key salts payloads (stream ++ moved ++ left ++ []) := by
      rw [List.append_nil]
      exact wrote
    refine ⟨⟨content, ⟨payloads, _, whole, onward.lost left, same⟩, fun _ => rfl⟩, fun succeeds => ?_⟩
    exact absurd rfl succeeds
  · have none := finished left sink rfl
    subst none
    exact passes_pure (finish_passes request ticket ⟨payloads, stream ++ moved, wrote, onward, same⟩)
  · exact passes_pure ⟨payloads, stream ++ moved, wrote, onward, same⟩

theorem start_passes (request : Request) (ticket : Ticket) (passage : Passage key salts missing writer [] content) :
    (writer.startNoted request ticket).Passes key salts missing (content ++ request.data) := by
  obtain ⟨payloads, stream, wrote, mended, same⟩ := passage
  rw [List.append_nil] at wrote
  unfold Writer.startNoted
  by_cases empty : (writer.queued ++ request.data).isEmpty
  · have none := List.append_eq_nil_iff.mp (List.isEmpty_iff.mp empty)
    have nothing : payloads.flatten ++ [] = content ++ request.data := by
      rw [← same, none.1, none.2, List.append_nil, List.append_nil]
    rw [if_pos empty]
    refine passes_pure (finish_passes request ticket ⟨payloads, stream, ?_, mended, nothing⟩)
    rwa [List.append_nil]
  · rw [if_neg empty]
    rcases wrote.seal (writer.queued ++ request.data) with ⟨sealed, after, made, grown⟩ | ⟨fault, failed, undrawn, unbegun⟩
    · have lossless := wrote.seal_lossless made
      refine passes_bind _ (gapsIn_lossless lossless) (fun _ => rfl) (fun _ => lossless) ?_
      rw [Sealer.value_sealDataNoted, made]
      refine send_passes request ticket ⟨_, stream, grown, mended, ?_⟩
      rw [List.flatten_append, Wire.flatten_pieces_longest, ← same, List.append_nil, List.append_assoc]
    · -- Without a salt nothing is sealed, and what was queued is lost.
      obtain ⟨ofKey, ofSalts⟩ := wrote.origin
      rw [← ofKey, ← ofSalts] at undrawn
      have notes := Sealer.notes_sealDataNoted_unsalted unbegun undrawn (writer.queued ++ request.data)
      have none : gapsIn (writer.sealer.sealDataNoted (writer.queued ++ request.data)).notes = [] := by
        rw [notes]
        rfl
      have still : Sealer.Wrote key salts { writer.sealer with attempts := writer.sealer.attempts + 1 } payloads
          (stream ++ []) := by
        rw [List.append_nil]
        exact wrote.again
      refine passes_bind payloads.flatten none ?_ ?_ ?_
      · intro lossless
        rw [notes] at lossless
        cases lossless _ List.mem_cons_self
      · rw [Sealer.value_sealDataNoted, failed]
        exact fun succeeds => absurd rfl succeeds
      · rw [Sealer.value_sealDataNoted, failed]
        exact passes_pure ⟨payloads, stream, still, mended, List.append_nil _⟩

theorem turn_passes (writer : Writer (Recorded σ)) (operation : Operation) (ticket : Ticket)
    (passage : Passage key salts missing writer operation.stage.rest content) :
    (writer.turnNoted operation.request ticket operation.stage).Passes key salts missing
      (content ++ operation.unsealed) := by
  obtain ⟨request, stage⟩ := operation
  cases stage with
  | unstarted | waiting | finished => exact start_passes request ticket passage
  | sending =>
      rw [Operation.unsealed_active rfl, List.append_nil]
      exact send_passes request ticket passage
  | finishing =>
      rw [Operation.unsealed_active rfl, List.append_nil]
      exact passes_pure (finish_passes request ticket passage)

end Passage

def Writer.withSink {σ : Type} (writer : Writer (Recorded σ)) (sink : σ) : Writer (Recorded σ) :=
  { writer with sink := ⟨sink, writer.sink.wire⟩ }

/-- Operations at one writer, and the data that it has taken from them so far. Only the one at work has
sealed bytes that are neither on the wire nor given up. -/
structure Transit {σ : Type} (key : MasterKey) (salts : SaltSource) (missing : List Bytes)
    (writer : Writer (Recorded σ)) (operations : List Operation) (content : Bytes) : Prop where
  crew : Crew writer.lock operations
  passage : ∃ rest, Passage key salts missing writer rest content ∧
    (∀ operation ∈ operations, operation.stage.isActive → operation.stage.rest = rest) ∧
    ((∀ operation ∈ operations, operation.stage.isActive = false) → rest = [])

namespace Transit

variable {σ : Type} {key : MasterKey} {salts : SaltSource} {missing : List Bytes} {writer : Writer (Recorded σ)}
  {operation : Operation} {operations others : List Operation} {content : Bytes}

theorem of_idle (crew : Crew writer.lock operations) (passage : Passage key salts missing writer [] content)
    (idle : ∀ operation ∈ operations, operation.stage.isActive = false) :
    Transit key salts missing writer operations content := by
  refine ⟨crew, [], passage, ?_, fun _ => rfl⟩
  intro operation mem working
  rw [idle operation mem] at working
  cases working

theorem of_active (crew : Crew writer.lock (operation :: others)) (active : operation.stage.isActive)
    (passage : Passage key salts missing writer operation.stage.rest content)
    (idle : ∀ other ∈ others, other.stage.isActive = false) :
    Transit key salts missing writer (operation :: others) content := by
  refine ⟨crew, _, passage, ?_, ?_⟩
  · intro other mem working
    rcases List.mem_cons.mp mem with rfl | mem
    · rfl
    · rw [idle other mem] at working
      cases working
  · intro none
    rw [none operation List.mem_cons_self] at active
    cases active

theorem fresh (key : MasterKey) (salts : SaltSource) (sink : σ) :
    Transit key salts [] (Writer.fresh key salts ⟨sink, []⟩) [] [] := by
  have nobody : ∀ operation ∈ ([] : List Operation), operation.stage.isActive = false := List.forall_mem_nil _
  exact .of_idle .none ⟨[], [], Sealer.wrote_fresh key salts, .nothing, rfl⟩ nobody

theorem perm (transit : Transit key salts missing writer operations content) (same : operations.Perm others) :
    Transit key salts missing writer others content := by
  obtain ⟨crew, rest, passage, active, idle⟩ := transit
  refine ⟨crew.perm same, rest, passage, fun operation mem => active operation (same.mem_iff.mpr mem), ?_⟩
  exact fun none => idle (fun operation mem => none operation (same.mem_iff.mp mem))

theorem add (transit : Transit key salts missing writer operations content) (request : Request) :
    Transit key salts missing writer (.ofRequest request :: operations) content := by
  obtain ⟨crew, rest, passage, active, idle⟩ := transit
  refine ⟨crew.add request, rest, passage, ?_,
    fun none => idle (fun other mem => none other (List.mem_cons_of_mem _ mem))⟩
  intro operation mem working
  rcases List.mem_cons.mp mem with rfl | mem
  · cases working
  · exact active operation mem working

theorem withSink (sink : σ) (transit : Transit key salts missing writer operations content) :
    Transit key salts missing (writer.withSink sink) operations content := by
  obtain ⟨crew, rest, passage, active⟩ := transit
  exact ⟨crew, rest, passage_withSink rfl passage, active⟩

theorem enqueue (data : Bytes) (transit : Transit key salts missing writer operations content) :
    Transit key salts missing (writer.enqueue data) operations (content ++ data) := by
  obtain ⟨crew, rest, ⟨payloads, stream, wrote, mended, same⟩, active⟩ := transit
  refine ⟨crew, rest, ⟨payloads, stream, wrote, mended, ?_⟩, active⟩
  rw [← same, List.append_assoc]
  rfl

theorem salts_eq (transit : Transit key salts missing writer operations content) : writer.sealer.salts = salts := by
  obtain ⟨-, rest, ⟨payloads, stream, wrote, -⟩, -⟩ := transit
  exact wrote.origin.2

theorem passage_idle (transit : Transit key salts missing writer operations content)
    (idle : ∀ operation ∈ operations, operation.stage.isActive = false) :
    Passage key salts missing writer [] content := by
  obtain ⟨-, rest, passage, -, none⟩ := transit
  rwa [none idle] at passage

theorem passage_first (transit : Transit key salts missing writer (operation :: others) content)
    (idle : ∀ other ∈ others, other.stage.isActive = false) :
    Passage key salts missing writer operation.stage.rest content := by
  cases working : operation.stage.isActive with
  | true =>
      obtain ⟨-, rest, passage, active, -⟩ := transit
      rwa [active operation List.mem_cons_self working]
  | false =>
      rw [Stage.rest_eq_nil working]
      exact transit.passage_idle (List.forall_mem_cons.mpr ⟨working, idle⟩)

/-- Carrying an operation on takes its data, at once or later. What it gives up leaves a gap, and it fails if it
loses anything. -/
theorem poll [ByteSink σ] (transit : Transit key salts missing writer (operation :: others) content) :
    (∃ later, Transit key salts (missing ++ gapsIn (writer.pollNoted operation).notes) (writer.poll operation).writer
        (((writer.poll operation).left operation.request).toList ++ others) later ∧
      (Lossless (writer.pollNoted operation).notes →
        later ++ unsealed ((writer.poll operation).left operation.request).toList = content ++ operation.unsealed)) ∧
      ((writer.poll operation).result.outcome ≠ .failed → Lossless (writer.pollNoted operation).notes) := by
  have kept := transit.crew.poll
  cases transit.crew.carried with
  | @granted ticket asked asks _ holds idle step =>
      have turn := Writer.turn_keeps { writer with lock := asked } operation.request ticket operation.stage
      have noted := turn_passes { writer with lock := asked } operation ticket (transit.passage_first idle)
      rw [← Writer.pollNoted_granted asks holds] at noted
      rw [← step] at turn
      obtain ⟨⟨later, passage, unlost⟩, lossless⟩ := noted
      rw [Writer.value_pollNoted] at passage lossless
      refine ⟨⟨later, ?_, ?_⟩, lossless⟩
      · unfold Step.Turn at turn
        unfold Step.unsent at passage
        unfold Step.left at kept ⊢
        cases answer : (writer.poll operation).result with
        | stalled reason =>
            rw [answer] at turn passage kept
            exact of_active kept turn.2.1 passage idle
        | ready result =>
            rw [answer] at passage kept
            exact of_idle kept passage idle
      · intro none
        unfold Step.Turn at turn
        unfold Step.left
        rw [← unlost none]
        cases answer : (writer.poll operation).result with
        | stalled reason =>
            rw [answer] at turn
            have sealed : Operation.unsealed ⟨operation.request, (writer.poll operation).stage⟩ = [] :=
              Operation.unsealed_active turn.2.1
            exact (congrArg (later ++ ·) ((unsealed_some _).trans sealed)).trans (List.append_nil _)
        | ready result => exact List.append_nil _
  | @waits ticket asked asks _ behind idle step =>
      -- It has asked for its turn at most, so that whoever was at work still is.
      have none := Writer.notes_pollNoted_waits asks idle behind
      obtain ⟨-, rest, passage, active, still⟩ := transit
      rw [step] at kept
      rw [none, step]
      refine ⟨⟨content, ⟨kept, rest, ?_, ?_, ?_⟩, ?_⟩, fun _ => List.forall_mem_nil _⟩
      · rw [gapsIn, List.filterMap_nil, List.append_nil]
        exact passage
      · intro other mem working
        rcases List.mem_cons.mp mem with rfl | mem
        · cases working
        · exact active other (List.mem_cons_of_mem _ mem) working
      · exact fun others => still (List.forall_mem_cons.mpr ⟨idle, (List.forall_mem_cons.mp others).2⟩)
      · rw [Operation.unsealed_idle idle]
        exact fun _ => congrArg (content ++ ·) (List.append_nil _)

theorem cancel (transit : Transit key salts missing writer (operation :: others) content) :
    Transit key salts (missing ++ gapsIn (writer.cancelNoted operation).notes) (writer.cancel operation) others
      content := by
  have kept := transit.crew.cancel
  by_cases working : operation.stage.isActive
  · obtain ⟨ticket, has⟩ := Stage.ticket?_of_isActive working
    have holds := (transit.crew.active operation List.mem_cons_self working).trans has
    have idle := transit.crew.others_idle has holds
    obtain ⟨payloads, stream, wrote, mended, same⟩ := transit.passage_first idle
    obtain ⟨request, stage⟩ := operation
    refine .of_idle kept ?_ idle
    cases stage with
    | sending ticket rest =>
        refine ⟨payloads, stream ++ rest, ?_, mended.lost rest, same⟩
        rw [List.append_nil]
        exact wrote
    | finishing ticket =>
        have none : missing ++ gapsIn (writer.cancelNoted ⟨request, .finishing ticket⟩).notes = missing :=
          List.append_nil missing
        rw [none]
        exact ⟨payloads, stream, wrote, mended, same⟩
    | unstarted | waiting | finished => cases working
  · obtain ⟨-, rest, passage, active, idle⟩ := transit
    obtain ⟨request, stage⟩ := operation
    have none : gapsIn (writer.cancelNoted ⟨request, stage⟩).notes = [] := by
      cases stage with
      | unstarted | waiting | finished => rfl
      | sending | finishing => exact absurd rfl working
    obtain ⟨queued, sealer, sink⟩ := writer.cancel_keeps ⟨request, stage⟩
    rw [none, List.append_nil]
    refine ⟨kept, rest, ?_, fun other mem => active other (List.mem_cons_of_mem _ mem), fun others => idle ?_⟩
    · rw [Passage, queued, sealer, sink]
      exact passage
    · exact List.forall_mem_cons.mpr ⟨Bool.eq_false_iff.mpr working, others⟩

theorem poll_behaves [ByteSink σ] {allowed : Outcome → Prop} {good : σ → Prop} (behaves : Behaves allowed good)
    (finishes : allowed .finished) (waits : allowed .stalled ∨ others = []) (able : salts.IsAble key)
    (transit : Transit key salts missing writer (operation :: others) content) (here : good writer.sink.sink) :
    good (writer.poll operation).writer.sink.sink ∧ allowed (writer.poll operation).result.outcome := by
  obtain ⟨rest, ⟨payloads, stream, wrote, -⟩, -⟩ := transit.passage
  cases transit.crew.carried with
  | @granted ticket asked asks _ holds idle step =>
      rw [step]
      exact Writer.turn_behaves { writer with lock := asked } behaves.recorded finishes operation.request ticket
        operation.stage (Or.inr ⟨key, salts, payloads, _, able, wrote⟩) here
  | waits asks crew behind idle step =>
      rw [step]
      rcases waits with stalls | rfl
      · exact ⟨here, stalls⟩
      · exact absurd crew.serves.only behind

end Transit
end SealedTunnel
