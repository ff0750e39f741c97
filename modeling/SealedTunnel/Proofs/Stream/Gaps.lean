import SealedTunnel.Proofs.Stream.Sharing
import SealedTunnel.Scripted.Sink
import SealedTunnel.Scripted.Source

namespace SealedTunnel

namespace Wire

/-- The bytes are the beginning of a salt and of chunks sealed under the nonces from zero on. -/
def Valid (key : MasterKey) (salts : SaltSource) (bytes : Bytes) : Prop :=
  bytes = [] ∨ ∃ attempt salt payloads whole, salts.draw attempt key.saltSize = .ok salt ∧ Sendable payloads ∧
    encode key salt payloads = .ok whole ∧ bytes <+: whole

variable {key : MasterKey} {salts : SaltSource} {bytes : Bytes}

theorem Valid.of_wrote {sealer : Sealer} {payloads : List Bytes} {rest : Bytes}
    (wrote : sealer.Wrote key salts payloads (bytes ++ rest)) : Valid key salts bytes := by
  cases wrote with
  | nothing _ _ _ _ _ empty => exact Or.inl (List.append_eq_nil_iff.mp empty).1
  | begun _ _ drawn ofSalt _ _ sendable encoded =>
      exact Or.inr ⟨_, _, _, _, drawn, sendable, encode_eq ofSalt sendable, encoded ▸ List.prefix_append _ _⟩

theorem Valid.begins (valid : Valid key salts bytes) (count : Nat) (some : bytes ≠ []) (long : count ≤ bytes.length)
    (inside : count ≤ key.saltSize) :
    ∃ attempt salt, salts.draw attempt key.saltSize = .ok salt ∧ bytes.take count = salt.take count := by
  rcases valid with none | ⟨attempt, salt, payloads, whole, drawn, sendable, encoded, begins⟩
  · exact absurd none some
  · obtain ⟨session, ofSalt⟩ := key.session_ok salt
    rw [encode_eq ofSalt sendable] at encoded
    have sized := SaltSource.length_of_draw drawn
    refine ⟨attempt, salt, drawn, ?_⟩
    obtain ⟨more, rfl⟩ := begins
    have same := congrArg (List.take count) (Except.ok.inj encoded)
    rw [List.take_append_of_le_length (sized ▸ inside), List.take_append_of_le_length long] at same
    exact same.symm

end Wire

section Failure

variable {σ : Type} [ByteSink σ] {sink after : σ} {error : IoError} {bytes : Bytes}

theorem Writer.poll_seals {writer : Writer σ} {request : Request} {sealer : Sealer} {sealed : Bytes}
    (idle : writer.lock.holder = none) (some : writer.queued ++ request.data ≠ [])
    (made : writer.sealer.sealData (writer.queued ++ request.data) = (.ok sealed, sealer)) :
    writer.poll (.ofRequest request) =
      Writer.send ⟨[], writer.lock.request.2, sealer, writer.sink⟩ request writer.lock.next sealed := by
  have full : ¬ (writer.queued ++ request.data).isEmpty := fun empty => some (List.isEmpty_iff.mp empty)
  have asks : Stage.unstarted.asks writer.lock = .some _ := congrArg Option.some (Lock.request_idle idle)
  have granted : writer.poll (.ofRequest request) = Writer.start _ request _ := poll_granted asks rfl
  rw [granted, Lock.request_idle idle]
  unfold start
  dsimp only
  rw [if_neg full, made]

theorem Writer.poll_writes {writer : Writer σ} {sealer : Sealer} {data sealed left : Bytes}
    (idle : writer.lock.holder = none) (some : writer.queued ++ data ≠ [])
    (made : writer.sealer.sealData (writer.queued ++ data) = (.ok sealed, sealer))
    (drained : drain .stuck writer.sink sealed = (.ready (.ok ()), left, after)) :
    writer.poll (.ofRequest (.write data)) =
      ⟨.ready (.ok ()), ⟨[], writer.lock.request.2.release, sealer, after⟩, .finished⟩ := by
  have sends : writer.poll (.ofRequest (.write data)) = _ := poll_seals idle some made
  rw [sends, send, drained]
  rfl

theorem Writer.poll_fails {writer : Writer σ} {request : Request} {sealer : Sealer} {sealed left : Bytes}
    (idle : writer.lock.holder = none) (some : writer.queued ++ request.data ≠ [])
    (made : writer.sealer.sealData (writer.queued ++ request.data) = (.ok sealed, sealer))
    (drained : drain .stuck writer.sink sealed = (.ready (.error error), left, after)) :
    writer.poll (.ofRequest request) =
      ⟨.ready (.error error), ⟨[], writer.lock.request.2.release, sealer, after⟩, .finished⟩ := by
  rw [poll_seals idle some made, send, drained]
  rfl

theorem Wire.frames_ne_nil (session : Aead) (count : Nat) {data : Bytes} (some : data ≠ []) :
    frames session count (data.pieces longestPayload) ≠ [] := by
  rw [frames_pieces session count some]
  intro none
  have length := congrArg List.length (List.append_eq_nil_iff.mp none).1
  rw [length_frame] at length
  cases length

theorem Writer.wire_begun {writer : Writer (Recorded σ)} {session : Aead} {count : Nat} {data : Bytes}
    (idle : writer.lock.holder = none) (none : writer.queued = []) (begun : writer.sealer.session = some session)
    (nonce : writer.sealer.nonce = .ofNat count) (some : data ≠ [])
    (takes : ∀ bytes ≠ [], ∃ next, ByteSink.write writer.sink.sink bytes = (.ready (.ok bytes.length), next)) :
    (writer.poll (.ofRequest (.write data))).writer.sink.wire =
      writer.sink.wire ++ Wire.frames session count (data.pieces Wire.longestPayload) := by
  have frames := Wire.frames_ne_nil session count some
  obtain ⟨next, taken⟩ := takes _ frames
  have mine : writer.queued ++ data = data := by rw [none, List.nil_append]
  have sealed := Sealer.sealData_begun begun nonce data
  rw [← mine] at sealed some
  rw [poll_writes idle some sealed (drain_takes .stuck (mine.symm ▸ frames) (Recorded.write_eq (mine.symm ▸ taken))), mine]
  exact congrArg (writer.sink.wire ++ ·) List.take_length

theorem Writer.poll_first_fails {key : MasterKey} {source : SaltSource} {salt : Bytes} {session : Aead} {queued : Bytes}
    {request : Request} (drawn : source.draw 0 key.saltSize = .ok salt) (ofSalt : key.session salt = .ok session)
    (fails : ∀ bytes ≠ [], ByteSink.write sink bytes = (.ready (.error error), after))
    (final : error.kind ≠ .interrupted)
    (some : queued ++ request.data ≠ []) :
    ∃ sealer, sealer.session = Option.some session ∧
      sealer.nonce = .ofNat (0 + 2 * ((queued ++ request.data).pieces Wire.longestPayload).length) ∧
      ((fresh key source (⟨sink, []⟩ : Recorded σ)).enqueue queued).poll (.ofRequest request) =
        ⟨.ready (.error error), ⟨[], Lock.free.request.2.release, sealer, ⟨after, []⟩⟩, .finished⟩ := by
  have sealed := @Sealer.sealData_first (.fresh key source) session salt 0 rfl Nonce.zero_eq_ofNat drawn ofSalt
    (queued ++ request.data)
  have full : salt ++ Wire.frames session 0 ((queued ++ request.data).pieces Wire.longestPayload) ≠ [] :=
    fun none => Wire.frames_ne_nil session 0 some (List.append_eq_nil_iff.mp none).2
  have failed : ((fresh key source (⟨sink, []⟩ : Recorded σ)).enqueue queued).poll (.ofRequest request) = _ :=
    poll_fails rfl some sealed (drain_fails .stuck full (Recorded.write_eq (fails _ full)) final)
  exact ⟨_, rfl, rfl, failed⟩

/-- A write that fails before the sink has taken anything, and one behind it that succeeds: its chunks follow on those
that were given up, and the salt is given up with them. -/
theorem Writer.wire_behind_failure {key : MasterKey} {source : SaltSource} {salt : Bytes} {session : Aead}
    (first second : Bytes) (drawn : source.draw 0 key.saltSize = .ok salt) (ofSalt : key.session salt = .ok session)
    (fails : ∀ bytes ≠ [], ByteSink.write sink bytes = (.ready (.error error), after))
    (final : error.kind ≠ .interrupted)
    (takes : ∀ bytes ≠ [], ∃ next, ByteSink.write after bytes = (.ready (.ok bytes.length), next))
    (some : first ≠ []) (more : second ≠ []) :
    (((fresh key source (⟨sink, []⟩ : Recorded σ)).poll (.ofRequest (.write first))).writer.poll
        (.ofRequest (.write second))).writer.sink.wire =
      Wire.frames session (0 + 2 * (first.pieces Wire.longestPayload).length) (second.pieces Wire.longestPayload) := by
  obtain ⟨sealer, begun, nonce, failed⟩ :=
    @poll_first_fails _ _ _ _ _ key source salt session [] (.write first) drawn ofSalt fails final some
  have failed : (fresh key source (⟨sink, []⟩ : Recorded σ)).poll (.ofRequest (.write first)) = _ := failed
  rw [failed]
  exact wire_begun rfl rfl begun nonce more takes

end Failure

theorem Wire.take_frames (session : Aead) (count : Nat) (payload : Bytes) (rest : List Bytes) :
    (frames session count (payload :: rest)).take lengthSize =
      session.mask (.ofNat count) (Bytes.ofNatBE lengthSize payload.length) := by
  rw [frames, frame, Aead.message, List.append_assoc, List.append_assoc]
  exact List.take_left' (by simp)

namespace Shared

variable {ρ σ : Type} [ByteSource ρ] [ByteSink σ] {key : MasterKey} {source : SaltSource} {sink : σ}
  {last : Shared ρ σ} {notes : List Note}

theorem keeps_transit (key : MasterKey) (source : SaltSource) :
    Keeps (· = source) fun notes (writer : Writer (Recorded σ)) operations =>
      ∃ content, Transit key source (gapsIn notes) writer operations content where
  perm := fun ⟨content, transit⟩ same => ⟨content, transit.perm same⟩
  enqueue := fun data ⟨content, transit⟩ => ⟨_, transit.enqueue data⟩
  add := fun request ⟨content, transit⟩ => ⟨content, transit.add request⟩
  poll := by
    rintro notes writer operation others ⟨content, transit⟩
    obtain ⟨⟨later, polled, -⟩, -⟩ := transit.poll
    rw [gapsIn_append]
    exact ⟨later, polled⟩
  cancel := by
    rintro notes writer operation others ⟨content, transit⟩
    rw [gapsIn_append]
    exact ⟨content, transit.cancel⟩
  sink := fun sink ⟨content, transit⟩ => ⟨content, transit.withSink sink⟩
  salts := by
    rintro notes ⟨queued, lock, sealer, sink⟩ operations salts rfl ⟨content, transit⟩
    have yielded := transit.salts_eq
    cases yielded
    exact ⟨content, transit⟩

/-- Tasks at a fresh writer, whatever fails and wherever they are dropped: what is on the wire is the beginning of one
valid stream but for the sealed bytes that were given up, and is valid as long as none were. -/
theorem wire_with_gaps (run : Run (· = source) (fresh key source sink) notes last) :
    (∃ stream, Wire.Mended (gapsIn notes) last.writer.sink.wire stream ∧ Wire.Valid key source stream) ∧
      ((∀ gap ∈ gapsIn notes, gap = []) → Wire.Valid key source last.writer.sink.wire) := by
  obtain ⟨content, transit⟩ := (keeps_transit key source).run run ⟨[], .fresh key source sink⟩
  obtain ⟨rest, ⟨payloads, stream, wrote, mended, -⟩, -⟩ := transit.passage
  have valid := Wire.Valid.of_wrote wrote
  refine ⟨⟨stream, mended, valid⟩, fun none => ?_⟩
  rw [mended.eq none]
  exact valid

theorem wire_with_gaps_script :
    let key : MasterKey := ⟨⟨"aes-128-gcm", "AEAD_AES_128_GCM", .aes128Gcm⟩, []⟩
    let source : SaltSource := .random fun _ _ => 7
    let first : Shared Scripted.Source Scripted.Sink := fresh key source (.ofScript [.accept 20, .fail (.os 32)] [] [] none)
    ∃ notes last, Run (· = source) first notes last ∧
      ∃ stream, Wire.Mended (gapsIn notes) last.writer.sink.wire stream ∧ Wire.Valid key source stream := by
  intro key source first
  have flushing : Run (· = source) first _ _ := Run.nothing.step (.call .flush)
  have called := flushing.step (.call (.write [1]))
  have failed := called.step (.poll (.refl _) rfl)
  have dropped := failed.step (.drop List.perm_append_comm)
  have again := dropped.step (.call (.write [2]))
  have sent := again.step (.poll (.refl _) rfl)
  exact ⟨_, _, sent, (wire_with_gaps sent).1⟩

/-- After a write that failed before the salt, no other write makes the wire valid but by accident, and two never. -/
theorem wire_gap :
    let key : MasterKey := ⟨⟨"aes-128-gcm", "AEAD_AES_128_GCM", .aes128Gcm⟩, []⟩
    let source : SaltSource := .fixed (Bytes.zeros 16)
    let sink : Scripted.Sink := .ofScript [.fail (.os 32)] [] [] none
    ¬ ∀ notes last, Run (· = source) (fresh key source sink : Shared Scripted.Source Scripted.Sink) notes last →
      Wire.Valid key source last.writer.sink.wire := by
  intro key source sink valid
  obtain ⟨session, ofSalt⟩ := key.session_ok (Bytes.zeros 16)
  have fails : ∀ bytes ≠ [], ByteSink.write sink bytes = (.ready (.error (.os 32)), { sink with writes := [] }) :=
    fun bytes _ => rfl
  have takes : ∀ bytes ≠ [], ∃ next, ByteSink.write { sink with writes := [] } bytes = (.ready (.ok bytes.length), next) := by
    intro bytes _
    refine ⟨_, Prod.ext ?_ rfl⟩
    exact congrArg (fun count => Poll.ready (Except.ok count)) (Nat.min_self _)
  have drawn : source.draw 0 key.saltSize = .ok (Bytes.zeros 16) := rfl
  -- The beginning of the wire would have to be the salt, whatever length is hidden there.
  have masked : ∀ payload : Bytes, payload ≠ [] → payload.length ≤ Wire.longestPayload →
      session.mask (.ofNat 2) (Bytes.ofNatBE Wire.lengthSize payload.length) = [0, 0] := by
    intro payload some short
    have called : Run (· = source) (fresh key source sink : Shared Scripted.Source Scripted.Sink) _ _ :=
      Run.nothing.step (.call (.write [1]))
    have failed := called.step (.poll (.refl _) rfl)
    have again := failed.step (.call (.write payload))
    have sent : Wire.Valid key source (((Writer.fresh key source (⟨sink, []⟩ : Recorded Scripted.Sink)).poll
        (.ofRequest (.write [1]))).writer.poll
        (.ofRequest (.write payload))).writer.sink.wire := valid _ _ (again.step (.poll (.refl _) rfl))
    have wire := Writer.wire_behind_failure [1] payload drawn ofSalt fails (by decide) takes (by decide) some
    rw [Bytes.pieces_short some short, Bytes.pieces_short (by decide) (by decide)] at wire
    rw [wire] at sent
    have long : Wire.lengthSize ≤ (Wire.frames session (0 + 2 * [[(1 : UInt8)]].length) [payload]).length := by
      rw [Wire.frames, List.length_append, Wire.length_frame, Wire.frameSize]
      omega
    have full : Wire.frames session (0 + 2 * [[(1 : UInt8)]].length) [payload] ≠ [] := by
      intro none
      rw [none] at long
      cases long
    obtain ⟨attempt, salt, drew, same⟩ := sent.begins Wire.lengthSize full long (by decide)
    rw [Wire.take_frames] at same
    cases drew
    exact same
  have short := masked [2] (by decide) (by decide)
  have long := masked [2, 3] (by decide) (by decide)
  have uncovered := congrArg (session.mask (.ofNat 2)) (short.trans long.symm)
  rw [Aead.mask_mask, Aead.mask_mask] at uncovered
  cases uncovered

end Shared
end SealedTunnel
