import SealedTunnel.Proofs.Stream.RoundTrip

namespace SealedTunnel

namespace Bytes

variable {size : Nat} {bytes piece rest : Bytes} {cut : List Bytes}

inductive Cuts (size : Nat) : (bytes : Bytes) → (cut : List Bytes) → Prop
  | nothing : Cuts size [] []
  | last {piece : Bytes} (some : piece ≠ []) (short : piece.length ≤ size) : Cuts size piece [piece]
  | full {piece rest : Bytes} {cut : List Bytes} (full : piece.length = size) (more : rest ≠ [])
      (cuts : Cuts size rest cut) : Cuts size (piece ++ rest) (piece :: cut)

theorem pieces_full (positive : 0 < size) (full : piece.length = size) :
    pieces size (piece ++ rest) = piece :: pieces size rest := by
  subst full
  have some : piece ++ rest ≠ [] := List.append_ne_nil_of_left_ne_nil (List.length_pos_iff.mp positive) rest
  rw [pieces_some positive some, List.take_left, List.drop_left]

theorem cuts_pieces (positive : 0 < size) (bytes : Bytes) : Cuts size bytes (pieces size bytes) := by
  fun_induction pieces size bytes with
  | case1 bytes empty =>
      rw [List.isEmpty_iff.mp (empty.resolve_left (Nat.ne_of_gt positive))]
      exact .nothing
  | case2 bytes some ih =>
      by_cases short : bytes.length ≤ size
      · rw [List.take_of_length_le short, List.drop_of_length_le short, pieces_nil]
        exact .last (fun none => some (Or.inr (List.isEmpty_iff.mpr none))) short
      · have more : bytes.drop size ≠ [] := fun none => short (List.drop_eq_nil_iff.mp none)
        have cuts := Cuts.full (List.length_take_of_le (Nat.le_of_not_le short)) more ih
        rwa [List.take_append_drop] at cuts

theorem cuts_iff (positive : 0 < size) : Cuts size bytes cut ↔ cut = pieces size bytes := by
  constructor
  · intro cuts
    induction cuts with
    | nothing => exact (pieces_nil size).symm
    | last some short => exact (pieces_short some short).symm
    | full full _ _ ih => rw [pieces_full positive full, ih]
  · rintro rfl
    exact cuts_pieces positive bytes

end Bytes

namespace Wire

theorem length_salted (salt : Bytes) (session : Aead) (count : Nat) (payloads : List Bytes) :
    (salt ++ frames session count payloads).length =
      payloads.foldr (fun payload total => payload.length + 2 + 2 * tagSize + total) salt.length := by
  rw [List.length_append]
  induction payloads generalizing count with
  | nil => rfl
  | cons payload payloads ih =>
      have later := ih (count + 2)
      rw [List.foldr_cons, ← later, frames, List.length_append, length_frame, frameSize, lengthSize]
      omega

/-- The bytes of payloads, so many chunks after the beginning. The salt stands in front of the first chunk of all. -/
def salted (salt : Bytes) (session : Aead) (chunks : Nat) (payloads : List Bytes) : Bytes :=
  (if chunks = 0 ∧ payloads.isEmpty = false then salt else []) ++ frames session (2 * chunks) payloads

theorem salted_append (salt : Bytes) (session : Aead) (chunks : Nat) (first second : List Bytes) :
    salted salt session chunks (first ++ second) =
      salted salt session chunks first ++ salted salt session (chunks + first.length) second := by
  unfold salted
  rw [frames_append, Nat.mul_add]
  cases first with
  | nil => simp [frames]
  | cons => simp

theorem salted_first (salt : Bytes) (session : Aead) {payloads : List Bytes} (some : payloads ≠ []) :
    salted salt session 0 payloads = salt ++ frames session 0 payloads := by
  simp [salted, some]

theorem Sendable.lengthField {payloads : List Bytes} {payload : Bytes} (sendable : Sendable payloads)
    (member : payload ∈ payloads) : 1 ≤ payload.length ∧ payload.length ≤ longestPayload ∧
      (Bytes.ofNatBE lengthSize payload.length).toNatBE = payload.length := by
  obtain ⟨some, short⟩ := sendable payload member
  exact ⟨List.length_pos_iff.mpr some, short, Bytes.toNatBE_ofNatBE_two _ (Nat.lt_of_le_of_lt short (by decide))⟩

end Wire

namespace Call

def pending : (queued : Bytes) → List Call → Bytes
  | queued, [] => queued
  | queued, enqueue data :: calls => pending (queued ++ data) calls
  | _, perform _ :: calls => pending [] calls

def payloads : (queued : Bytes) → List Call → List Bytes
  | _, [] => []
  | queued, enqueue data :: calls => payloads (queued ++ data) calls
  | queued, perform request :: calls => (queued ++ request.data).pieces Wire.longestPayload ++ payloads [] calls

/-- The bytes that calls put on the wire one after the other, if this much is queued and so many chunks were sent before
them. -/
def transcript (salt : Bytes) (session : Aead) : (queued : Bytes) → (chunks : Nat) → List Call → Bytes
  | _, _, [] => []
  | queued, chunks, enqueue data :: calls => transcript salt session (queued ++ data) chunks calls
  | queued, chunks, perform request :: calls =>
      let pieces := (queued ++ request.data).pieces Wire.longestPayload
      Wire.salted salt session chunks pieces ++ transcript salt session [] (chunks + pieces.length) calls

theorem sendable_payloads (queued : Bytes) (calls : List Call) : Wire.Sendable (payloads queued calls) := by
  fun_induction payloads queued calls with
  | case1 => exact List.forall_mem_nil _
  | case2 _ _ _ ih => exact ih
  | case3 _ _ _ ih => exact (Wire.sendable_pieces _).append ih

theorem transcript_eq (salt : Bytes) (session : Aead) (queued : Bytes) (chunks : Nat) (calls : List Call) :
    transcript salt session queued chunks calls = Wire.salted salt session chunks (payloads queued calls) := by
  fun_induction transcript salt session queued chunks calls with
  | case1 queued chunks => simp [payloads, Wire.salted, Wire.frames]
  | case2 queued chunks data calls ih => rw [ih, payloads]
  | case3 queued chunks request calls pieces ih => rw [ih, payloads, ← Wire.salted_append]

end Call

namespace Sealer

/-- The sealer has sealed these payloads under the first salt, and these are the bytes for the wire. -/
inductive Sealed (key : MasterKey) (salts : SaltSource) (sealer : Sealer) (payloads : List Bytes) (bytes : Bytes) : Prop
  | nothing (state : sealer = fresh key salts) (none : payloads = []) (empty : bytes = [])
  | begun {session : Aead} {salt : Bytes} (drawn : salts.draw 0 key.saltSize = .ok salt)
      (ofSalt : key.session salt = .ok session)
      (state : sealer = ⟨key, salts, 1, some session, .ofNat (2 * payloads.length)⟩) (some : payloads ≠ [])
      (encoded : bytes = salt ++ Wire.frames session 0 payloads)

variable {key : MasterKey} {salts : SaltSource} {sealer after : Sealer} {payloads : List Bytes}
  {bytes sealed data : Bytes}

theorem Sealed.seal (made : sealer.Sealed key salts payloads bytes) (some : data ≠ [])
    (done : sealer.sealData data = (.ok sealed, after)) :
    after.Sealed key salts (payloads ++ data.pieces Wire.longestPayload) (bytes ++ sealed) := by
  have pieces : payloads ++ data.pieces Wire.longestPayload ≠ [] := by
    rw [Bytes.pieces_some (by decide) some]
    exact List.append_ne_nil_of_right_ne_nil _ (List.cons_ne_nil _ _)
  cases made with
  | nothing state none empty =>
      subst state none empty
      cases drawn : salts.draw 0 key.saltSize with
      | error fault =>
          rw [sealData_unsalted rfl drawn data] at done
          cases done
      | ok salt =>
          obtain ⟨session, ofSalt⟩ := key.session_ok salt
          have nonce : (fresh key salts).nonce = .ofNat 0 := Nonce.zero_eq_ofNat
          rw [sealData_first rfl nonce drawn ofSalt data] at done
          cases done
          rw [List.nil_append, List.nil_append] at *
          refine .begun drawn ofSalt ?_ pieces rfl
          rw [Nat.zero_add]
          rfl
  | @begun session salt drawn ofSalt state _ encoded =>
      subst state encoded
      rw [sealData_begun rfl rfl data] at done
      cases done
      refine .begun drawn ofSalt ?_ pieces ?_
      · rw [List.length_append, Nat.mul_add]
      · rw [Wire.frames_append, Nat.zero_add, List.append_assoc]

theorem Sealed.bytes_nil (made : sealer.Sealed key salts payloads bytes) (none : payloads = []) : bytes = [] := by
  cases made with
  | nothing _ _ empty => exact empty
  | begun _ _ _ some => exact absurd none some

theorem Sealed.bytes_some (made : sealer.Sealed key salts payloads bytes) (some : payloads ≠ []) :
    ∃ salt session, salts.draw 0 key.saltSize = .ok salt ∧ key.session salt = .ok session ∧
      bytes = salt ++ Wire.frames session 0 payloads := by
  cases made with
  | nothing _ none => exact absurd none some
  | begun drawn ofSalt _ _ encoded => exact ⟨_, _, drawn, ofSalt, encoded⟩

theorem Sealed.unique {other : Sealer} {others : Bytes} (made : sealer.Sealed key salts payloads bytes)
    (again : other.Sealed key salts payloads others) : bytes = others := by
  by_cases none : payloads = []
  · rw [made.bytes_nil none, again.bytes_nil none]
  · obtain ⟨salt, session, drawn, ofSalt, encoded⟩ := made.bytes_some none
    obtain ⟨salt', session', drawn', ofSalt', encoded'⟩ := again.bytes_some none
    cases drawn.symm.trans drawn'
    cases ofSalt.symm.trans ofSalt'
    rw [encoded, encoded']

end Sealer

section Seals

variable {σ : Type}

/-- What a step that does not fail leaves: these payloads are sealed, and on the wire but for what is still to be sent. -/
def Step.Seals (key : MasterKey) (salts : SaltSource) (payloads : List Bytes) (step : Step (Recorded σ)) : Prop :=
  step.result.outcome ≠ .failed → step.writer.sealer.Sealed key salts payloads (step.writer.sink.wire ++ step.unsent)

def Writer.owed (writer : Writer (Recorded σ)) (operation : Operation) : List Bytes :=
  if operation.stage.isActive then [] else (writer.queued ++ operation.request.data).pieces Wire.longestPayload

namespace Writer

theorem owed_active {writer : Writer (Recorded σ)} {operation : Operation} (active : operation.stage.isActive) :
    writer.owed operation = [] := if_pos active

variable [ByteSink σ] {key : MasterKey} {salts : SaltSource} {writer last : Writer (Recorded σ)} {operation : Operation}
  {payloads : List Bytes} {rest : Bytes} {calls : List Call}

theorem finish_seals (request : Request) (ticket : Ticket)
    (sealed : writer.sealer.Sealed key salts payloads writer.sink.wire) :
    (writer.finish request ticket).Seals key salts payloads := by
  intro _
  rw [finish_eq]
  split
  all_goals
    rename_i closed
    rw [← List.append_nil writer.sink.wire, ← Recorded.wire_close closed] at sealed
    exact sealed

theorem send_seals (request : Request) (ticket : Ticket)
    (sealed : writer.sealer.Sealed key salts payloads (writer.sink.wire ++ rest)) :
    (writer.send request ticket rest).Seals key salts payloads := by
  obtain ⟨moved, wire, split⟩ := drain_moves .stuck writer.sink rest
  have finished : ∀ left sink, drain .stuck writer.sink rest = (.ready (.ok ()), left, sink) → left = [] :=
    fun _ _ done => rest_drain done
  rw [split, ← List.append_assoc, ← wire] at sealed
  unfold send
  generalize drain .stuck writer.sink rest = drained at sealed finished
  obtain ⟨(error | done) | reason, left, sink⟩ := drained
  · exact fun unfailed => absurd rfl unfailed
  · rw [finished left sink rfl, List.append_nil] at sealed
    exact finish_seals request ticket sealed
  · exact fun _ => sealed

theorem start_seals (request : Request) (ticket : Ticket)
    (sealed : writer.sealer.Sealed key salts payloads writer.sink.wire) :
    (writer.start request ticket).Seals key salts
      (payloads ++ (writer.queued ++ request.data).pieces Wire.longestPayload) := by
  unfold start
  dsimp only
  split
  · rename_i none
    rw [List.isEmpty_iff.mp none, Bytes.pieces_nil, List.append_nil]
    exact finish_seals request ticket sealed
  · rename_i some
    split
    · exact fun unfailed => absurd rfl unfailed
    · rename_i made
      exact send_seals request ticket (sealed.seal (fun none => some (List.isEmpty_iff.mpr none)) made)

theorem turn_seals (operation : Operation) (ticket : Ticket)
    (sealed : writer.sealer.Sealed key salts payloads (writer.sink.wire ++ operation.stage.rest)) :
    (writer.turn operation.request ticket operation.stage).Seals key salts (payloads ++ writer.owed operation) := by
  obtain ⟨request, stage⟩ := operation
  cases stage with
  | unstarted | waiting | finished =>
      rw [Stage.rest_eq_nil rfl, List.append_nil] at sealed
      exact start_seals request ticket sealed
  | sending =>
      rw [owed_active rfl, List.append_nil]
      exact send_seals request ticket sealed
  | finishing =>
      have whole := List.append_nil writer.sink.wire ▸ sealed
      rw [owed_active rfl, List.append_nil]
      exact finish_seals request ticket whole

/-- An operation that nobody is in front of has its turn, and is at work from then on. -/
theorem poll_alone_seals (tidy : Tidy writer [operation])
    (sealed : writer.sealer.Sealed key salts payloads (writer.sink.wire ++ operation.stage.rest)) :
    (writer.poll operation).Seals key salts (payloads ++ writer.owed operation) ∧
      ∀ later, (writer.poll operation).left operation.request = some later → later.stage.isActive := by
  cases tidy.crew.carried with
  | @granted ticket asked asks crew holds idle step =>
      have turn := turn_keeps { writer with lock := asked } operation.request ticket operation.stage
      rw [step]
      exact ⟨turn_seals operation ticket sealed, fun later left => (turn.left left).1⟩
  | waits asks crew behind => exact absurd crew.serves.only behind

theorem completes_seals {result : Except IoError Unit} (completes : Completes writer operation result last)
    (succeeds : result = .ok ()) (tidy : Tidy writer [operation])
    (sealed : writer.sealer.Sealed key salts payloads (writer.sink.wire ++ operation.stage.rest)) :
    Tidy last [] ∧ last.queued = [] ∧
      last.sealer.Sealed key salts (payloads ++ writer.owed operation) last.sink.wire := by
  induction completes generalizing payloads with
  | @done writer operation result finished =>
      subst succeeds
      obtain ⟨seals, -⟩ := poll_alone_seals tidy sealed
      have kept := tidy.poll
      have taken := tidy.ended
      rw [Step.left, finished] at kept taken
      rw [Step.Seals, Step.unsent, finished, List.append_nil] at seals
      exact ⟨kept, taken rfl, seals (fun failed => by cases failed)⟩
  | @later writer last operation reason result sink stalled rest ih =>
      obtain ⟨seals, active⟩ := poll_alone_seals tidy sealed
      have kept := tidy.poll
      rw [Step.left, stalled] at kept active
      rw [Step.Seals, Step.unsent, stalled] at seals
      obtain ⟨final, taken, all⟩ := ih succeeds ⟨kept.crew, kept.taken⟩ (seals (fun failed => by cases failed))
      rw [owed_active (active _ rfl), List.append_nil] at all
      exact ⟨final, taken, all⟩

theorem performs_seals (performs : Performs writer calls last) (tidy : Tidy writer [])
    (sealed : writer.sealer.Sealed key salts payloads writer.sink.wire) :
    Tidy last [] ∧ last.queued = Call.pending writer.queued calls ∧
      last.sealer.Sealed key salts (payloads ++ Call.payloads writer.queued calls) last.sink.wire := by
  induction performs generalizing payloads with
  | nothing =>
      rw [Call.payloads, List.append_nil]
      exact ⟨tidy, rfl, sealed⟩
  | enqueue data rest ih => exact ih ⟨tidy.crew, List.forall_mem_nil _⟩ sealed
  | @perform writer next last calls request done rest ih =>
      rw [← List.append_nil writer.sink.wire] at sealed
      obtain ⟨idle, taken, once⟩ := completes_seals done rfl (tidy.add request) sealed
      obtain ⟨final, queued, all⟩ := ih idle once
      rw [taken] at queued all
      rw [Call.payloads, ← List.append_assoc]
      exact ⟨final, queued, all⟩
  | meanwhile sink rest ih => exact ih ⟨tidy.crew, tidy.taken⟩ sealed

theorem performs_fresh_seals {sink : σ} (performs : Performs (fresh key salts ⟨sink, []⟩) calls last) :
    Tidy last [] ∧ last.queued = Call.pending [] calls ∧
      last.sealer.Sealed key salts (Call.payloads [] calls) last.sink.wire :=
  performs_seals performs (flowing_fresh key salts sink).tidy (.nothing rfl rfl rfl)

end Writer
end Seals

variable {σ : Type} [ByteSink σ] {key : MasterKey} {salts : SaltSource} {sink : σ} {calls : List Call}
  {last : Writer (Recorded σ)}

/-- Calls that all succeed put down the bytes that are made of them by hand: nothing if they have nothing to send, and
otherwise the first salt and the chunks of each of them in turn, none of them longer than its length field can say. One
more call that has nothing to send adds nothing. -/
theorem written_by_hand (performed : Writer.Performs (Writer.fresh key salts ⟨sink, []⟩) calls last) :
    let payloads := Call.payloads [] calls
    let wire := last.sink.wire
    (payloads = [] → wire = []) ∧
      (payloads ≠ [] → ∃ salt session, salts.draw 0 key.saltSize = .ok salt ∧ key.session salt = .ok session ∧
        wire = Call.transcript salt session [] 0 calls ∧ Wire.encode key salt payloads = .ok wire ∧
        wire.length = payloads.foldr (fun payload total => payload.length + 2 + 2 * tagSize + total) key.saltSize) ∧
      (∀ payload ∈ payloads, 1 ≤ payload.length ∧ payload.length ≤ 0x3fff ∧
        (Bytes.ofNatBE 2 payload.length).toNatBE = payload.length) ∧
      (∀ data cut, Bytes.Cuts 0x3fff data cut ↔ cut = data.pieces Wire.longestPayload) ∧
      ∀ request next, Writer.Performs last [.perform request] next → Call.pending [] calls ++ request.data = [] →
        next.sink.wire = wire := by
  intro payloads wire
  obtain ⟨idle, queued, sealed⟩ := Writer.performs_fresh_seals performed
  have sendable := Call.sendable_payloads [] calls
  refine ⟨sealed.bytes_nil, ?_, fun payload member => sendable.lengthField member,
    fun data cut => Bytes.cuts_iff (by decide), ?_⟩
  · intro some
    obtain ⟨salt, session, drawn, ofSalt, encoded⟩ := sealed.bytes_some some
    have sized := Wire.length_salted salt session 0 payloads
    rw [← encoded, SaltSource.length_of_draw drawn] at sized
    refine ⟨salt, session, drawn, ofSalt, ?_, ?_, sized⟩
    · rw [Call.transcript_eq, Wire.salted_first salt session some]
      exact encoded
    · rw [Wire.encode_eq ofSalt sendable]
      exact congrArg Except.ok encoded.symm
  · intro request next more nothing
    obtain ⟨-, -, later⟩ := Writer.performs_seals more idle sealed
    rw [queued, Call.payloads, nothing, Bytes.pieces_nil, List.nil_append, Call.payloads, List.append_nil] at later
    exact later.unique sealed

theorem written_by_hand_script :
    let key : MasterKey := ⟨⟨"aes-128-gcm", "AEAD_AES_128_GCM", .aes128Gcm⟩, []⟩
    let calls := [Call.enqueue [1, 2], Call.perform (.write [3]), Call.perform .shutdown]
    ∃ last : Writer (Recorded Scripted.Sink),
      Writer.Performs (Writer.fresh key (.random fun _ _ => 7) ⟨.ofScript [] [] [] none, []⟩) calls last ∧
        Wire.encode key (List.replicate 16 7) [[1, 2, 3]] = .ok last.sink.wire ∧ last.sink.wire.length = 16 + 37 := by
  intro key calls
  have able : (SaltSource.random fun _ _ => 7).IsAble key := fun attempt => ⟨_, rfl⟩
  have fresh := Writer.flowing_fresh key (.random fun _ _ => 7) (Scripted.Sink.ofScript [] [] [] none)
  obtain ⟨last, performed⟩ :=
    Writer.performs_all Scripted.Sink.behaves_isOpen able calls fresh ⟨rfl, rfl, rfl, rfl⟩
  have sent : Call.payloads [] calls = [[1, 2, 3]] := by
    have piece : Bytes.pieces Wire.longestPayload [1, 2, 3] = [[1, 2, 3]] :=
      Bytes.pieces_short (List.cons_ne_nil _ _) (by decide)
    change Bytes.pieces Wire.longestPayload [1, 2, 3] ++ (Bytes.pieces Wire.longestPayload [] ++ []) = _
    rw [piece, Bytes.pieces_nil]
    rfl
  obtain ⟨-, some, -⟩ := written_by_hand performed
  rw [sent] at some
  obtain ⟨salt, session, drawn, -, -, encoded, sized⟩ := some (List.cons_ne_nil _ _)
  cases drawn
  exact ⟨last, performed, encoded, sized⟩

end SealedTunnel
