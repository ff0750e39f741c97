import SealedTunnel.Proofs.Address.Encoding
import SealedTunnel.Proofs.Dialing.Background
import SealedTunnel.Proofs.Dialing.Usage
import SealedTunnel.Proofs.Stream.Transcript

namespace SealedTunnel

theorem Dialer.header_some {address : String} {header : Bytes} (made : Dialer.header address = .ok header) :
    header ≠ [] ∧ header.length ≤ Wire.longestPayload := by
  unfold Dialer.header at made
  cases parsed : Target.parse address with
  | error fault =>
      rw [parsed] at made
      cases made
  | ok target =>
      rw [parsed] at made
      have bounds := Target.length_encode_le made
      exact ⟨List.length_pos_iff.mp bounds.1, Nat.le_trans bounds.2 (by decide)⟩

section Ready

variable {σ : Type} [ByteSink σ] {good : σ → Prop} {key : MasterKey} {salts : SaltSource} {salt header : Bytes}
  {session : Aead} {sink : σ}

structure Writer.First (wire : Bytes) (step : Step (Recorded σ)) : Prop where
  result : step.result = .ready (.ok ())
  queued : step.writer.queued = []
  wire : step.writer.sink.wire = wire

theorem Writer.poll_first (ready : Behaves (· = .finished) good) (here : good sink)
    (drawn : salts.draw 0 key.saltSize = .ok salt) (ofSalt : key.session salt = .ok session) (some : header ≠ [])
    (request : Request) :
    First (salt ++ Wire.frames session 0 ((header ++ request.data).pieces Wire.longestPayload))
      (((fresh key salts ⟨sink, []⟩).enqueue header).poll (.ofRequest request)) := by
  have able := SaltSource.isAble_of_draw drawn
  have flowing := flowing_enqueue header (flowing_fresh key salts sink)
  obtain ⟨-, finished⟩ := (flowing.add request).transit.poll_behaves ready rfl (Or.inr rfl) able here
  have finished := Poll.outcome_eq_finished.mp finished
  obtain ⟨-, queued, sealed⟩ := performs_fresh_seals (.enqueue header (.perform request (.done finished) .nothing))
  have sent : Call.payloads [] [.enqueue header, .perform request] =
      (header ++ request.data).pieces Wire.longestPayload := List.append_nil _
  have more : Call.payloads [] [.enqueue header, .perform request] ≠ [] := by
    rw [sent, Bytes.pieces_some (by decide) (List.append_ne_nil_of_left_ne_nil some _)]
    exact List.cons_ne_nil _ _
  obtain ⟨salt', session', drawn', ofSalt', wire⟩ := sealed.bytes_some more
  cases drawn.symm.trans drawn'
  cases ofSalt.symm.trans ofSalt'
  rw [sent] at wire
  exact ⟨finished, queued, wire⟩

end Ready

namespace Dialed

variable {ρ σ : Type}

def wire (dialed : Dialed ρ (Recorded σ)) : Bytes := dialed.stream.writer.sink.wire

section Untouched

variable [ByteSource ρ] [ByteSink σ]

/-- A dialed stream that is at most read from. Time goes on to the next time at which there is work in the background,
and no further until it is done. -/
inductive Untouched (good : σ → Prop) (first : Dialed ρ (Recorded σ)) (start : Nat) :
    Dialed ρ (Recorded σ) → (now : Nat) → Prop
  | first : Untouched good first start first start
  | read {dialed : Dialed ρ (Recorded σ)} {now : Nat} (room : Nat) (before : Untouched good first start dialed now) :
      Untouched good first start (dialed.pollRead room).2 now
  | background {dialed : Dialed ρ (Recorded σ)} {now : Nat} (before : Untouched good first start dialed now) :
      Untouched good first start (dialed.pollDeferred now).2 now
  | sink {dialed : Dialed ρ (Recorded σ)} {now : Nat} (sink : σ) (here : good sink)
      (before : Untouched good first start dialed now) :
      Untouched good first start { dialed with stream.writer := dialed.stream.writer.withSink sink } now
  | later {dialed : Dialed ρ (Recorded σ)} {now later : Nat} (before : Untouched good first start dialed now)
      (passes : now ≤ later) (free : ∀ time, now ≤ time → time < later → dialed.deferred.turn? time = none) :
      Untouched good first start dialed later

end Untouched

/-- The header waits for data until it is due, or it was sent by then. -/
inductive Standing (dialer : Dialer) (header : Bytes) (good : σ → Prop) (sent : Bytes) (due : Nat)
    (dialed : Dialed ρ (Recorded σ)) (now : Nat) : Prop
  | waiting {sink : σ} (here : good sink)
      (writer : dialed.stream.writer = (Writer.fresh dialer.key dialer.salts ⟨sink, []⟩).enqueue header)
      (idle : dialed.stream.inFlight = none) (waits : dialed.deferred = .waiting due) (early : now ≤ due)
  | sent (done : dialed.deferred = .finished) (wire : dialed.wire = sent) (late : due ≤ now)

section Standing

variable [ByteSink σ] {dialer : Dialer} {header salt data : Bytes} {session : Aead} {good : σ → Prop} {due now : Nat}
  {dialed : Dialed ρ (Recorded σ)} (ready : Behaves (· = .finished) good)
  (drawn : dialer.salts.draw 0 dialer.key.saltSize = .ok salt) (ofSalt : dialer.key.session salt = .ok session)
  (bounds : header ≠ [] ∧ header.length ≤ Wire.longestPayload)

include ready drawn ofSalt bounds

theorem Standing.flushed (standing : Standing dialer header good (salt ++ Wire.frame session 0 header) due dialed now)
    (late : due ≤ now) : (dialed.pollDeferred now).2.deferred = .finished ∧
      (dialed.pollDeferred now).2.wire = salt ++ Wire.frame session 0 header := by
  cases standing with
  | @waiting sink here writer idle waits early =>
      have turn : dialed.deferred.turn? now = some (.ofRequest .flush) := by
        rw [waits]
        exact if_pos late
      have flushed : Writer.First (salt ++ Wire.frames session 0 (Bytes.pieces Wire.longestPayload (header ++ [])))
          (dialed.stream.writer.poll (.ofRequest .flush)) := by
        rw [writer]
        exact Writer.poll_first ready here drawn ofSalt bounds.1 .flush
      have alone : Wire.frames session 0 (Bytes.pieces Wire.longestPayload (header ++ [])) =
          Wire.frame session 0 header := by
        rw [List.append_nil, Bytes.pieces_short bounds.1 bounds.2]
        exact List.append_nil _
      rw [pollDeferred_turn turn, carryFlush, flushed.result]
      exact ⟨rfl, flushed.wire.trans (congrArg (salt ++ ·) alone)⟩
  | sent done wire =>
      have idle : dialed.deferred.turn? now = none := by rw [done, Deferred.turn?]
      rw [pollDeferred_idle idle]
      exact ⟨done, wire⟩

theorem Standing.background
    (standing : Standing dialer header good (salt ++ Wire.frame session 0 header) due dialed now) :
    Standing dialer header good (salt ++ Wire.frame session 0 header) due (dialed.pollDeferred now).2 now := by
  by_cases late : due ≤ now
  · obtain ⟨done, wire⟩ := standing.flushed ready drawn ofSalt bounds late
    exact .sent done wire late
  · cases standing with
    | waiting here writer idle waits early =>
        have unready : dialed.deferred.turn? now = none := by
          rw [waits]
          exact if_neg late
        rw [pollDeferred_idle unready]
        exact .waiting here writer idle waits early
    | sent _ _ passed => exact absurd passed late

theorem Untouched.standing [ByteSource ρ] {source : ρ} {sink : σ} (here : good sink) {start : Nat}
    (untouched : Untouched good (dialer.establish header source ⟨sink, []⟩ start) start dialed now) :
    Standing dialer header good (salt ++ Wire.frame session 0 header) (start + dialer.wait) dialed now := by
  induction untouched with
  | first => exact .waiting here rfl rfl rfl (Nat.le_add_right _ _)
  | read room before ih =>
      cases ih with
      | waiting here writer idle waits early => exact .waiting here writer idle waits early
      | sent done wire late => exact .sent done wire late
  | background before ih => exact ih.background ready drawn ofSalt bounds
  | sink sink there before ih =>
      cases ih with
      | waiting here writer idle waits early =>
          exact .waiting there (congrArg (Writer.withSink · sink) writer) idle waits early
      | sent done wire late => exact .sent done wire late
  | @later dialed now later before passes free ih =>
      cases ih with
      | waiting here writer idle waits early =>
          refine .waiting here writer idle waits (Nat.le_of_not_lt fun late => ?_)
          -- The flush would have been due before that.
          have turn := free _ early late
          rw [waits, Deferred.turn?, if_pos (Nat.le_refl _)] at turn
          cases turn
      | sent done wire late => exact .sent done wire (Nat.le_trans late passes)

theorem pollWrite_waiting {sink : σ} (here : good sink) (idle : dialed.stream.inFlight = none)
    (writer : dialed.stream.writer = (Writer.fresh dialer.key dialer.salts ⟨sink, []⟩).enqueue header)
    (waits : dialed.deferred = .waiting due) (some : data ≠ []) :
    (dialed.pollWrite data).1 = .ready (.ok data.length) ∧
      (dialed.pollWrite data).2.wire = salt ++ Wire.frame session 0 ((header ++ data).take Wire.longestPayload) ++
        Wire.frames session 2 (Bytes.pieces Wire.longestPayload ((header ++ data).drop Wire.longestPayload)) ∧
      (dialed.pollWrite data).2.Spent := by
  have first : Writer.First (salt ++ Wire.frames session 0 (Bytes.pieces Wire.longestPayload (header ++ data)))
      (dialed.stream.writer.poll (.ofRequest (.write data))) := by
    rw [writer]
    exact Writer.poll_first ready here drawn ofSalt bounds.1 (.write data)
  have whole : header ++ data ≠ [] := List.append_ne_nil_of_left_ne_nil bounds.1 data
  rw [Dialed.pollWrite, Duplex.pollWrite_idle idle some first.result]
  refine ⟨rfl, ?_, first.queued, ?_⟩
  · calc (dialed.stream.writer.poll (.ofRequest (.write data))).writer.sink.wire
      _ = salt ++ Wire.frames session 0 (Bytes.pieces Wire.longestPayload (header ++ data)) := first.wire
      _ = salt ++ (Wire.frame session 0 ((header ++ data).take Wire.longestPayload) ++
            Wire.frames session 2 (Bytes.pieces Wire.longestPayload ((header ++ data).drop Wire.longestPayload))) := by
          rw [Wire.frames_pieces session 0 whole]
      _ = _ := (List.append_assoc _ _ _).symm
  · intro operation mem
    rw [waits] at mem
    cases mem

end Standing

end Dialed

namespace Usage

variable {ρ σ : Type} [ByteSink σ] {good : σ → Prop} {first usage next : Usage ρ σ}

structure Abandoned (wire : Bytes) (usage : Usage ρ σ) : Prop where
  dropped : usage.isDropped = true
  done : usage.dialed.deferred = .finished
  wire : usage.wire = wire

theorem Step.abandoned {wire : Bytes} (abandoned : usage.Abandoned wire) (step : Step good usage next) :
    next.Abandoned wire := by
  obtain ⟨dropped, done, same⟩ := abandoned
  cases step with
  | write _ held | flush held | shutdown held | drop held => cases dropped.symm.trans held
  | background now =>
      have idle : usage.dialed.deferred.turn? now = none := by rw [done, Deferred.turn?]
      rw [Dialed.pollDeferred_idle idle]
      exact ⟨dropped, done, same⟩
  | sink sink => exact ⟨dropped, done, same⟩
  | salts salts => exact ⟨dropped, done, same⟩

theorem Reached.abandoned {wire : Bytes} (abandoned : first.Abandoned wire) (reached : Reached good first usage) :
    usage.Abandoned wire := by
  induction reached with
  | first => exact abandoned
  | step reached step ih => exact step.abandoned ih

end Usage

section Coalescing

variable {ρ σ : Type} [ByteSource ρ] [ByteSink σ]

/-- Over a sink that finishes everything at once, a dialed stream that is at most read from. Data that is written before
the wait is over shares the first chunk with the header, and the flush in the background adds nothing, however the stream
is used until then. A stream that is dropped before the wait is over sends nothing. When the wait is over the header is
sent, once and in a chunk of its own. -/
theorem Dialer.coalesces (dialer : Dialer) {address : String} {header : Bytes}
    (target : Dialer.header address = .ok header) {good : σ → Prop} (ready : Behaves (· = .finished) good)
    (source : ρ) {sink : σ} (here : good sink) (start : Nat) {salt : Bytes}
    (drawn : dialer.salts.draw 0 dialer.key.saltSize = .ok salt) :
    ∃ session, dialer.key.session salt = .ok session ∧
      ∀ dialed now, Dialed.Untouched good (dialer.establish header source ⟨sink, []⟩ start) start dialed now →
        (now < start + dialer.wait →
          dialed.wire = [] ∧
          (∀ data, data ≠ [] →
            (dialed.pollWrite data).1 = .ready (.ok data.length) ∧
            (dialed.pollWrite data).2.wire = salt ++ Wire.frame session 0 ((header ++ data).take 0x3fff) ++
              Wire.frames session 2 (Bytes.pieces 0x3fff ((header ++ data).drop 0x3fff)) ∧
            ((header ++ data).take 0x3fff).length = min 0x3fff (header.length + data.length) ∧
            ∀ usage, Usage.Reached good ⟨(dialed.pollWrite data).2, data, false, false⟩ usage →
              ∀ later, (usage.dialed.pollDeferred later).2.wire = usage.wire) ∧
          ∀ usage, Usage.Reached good ⟨dialed.drop, [], false, true⟩ usage → usage.wire = []) ∧
        (start + dialer.wait ≤ now → (dialed.pollDeferred now).2.wire = salt ++ Wire.frame session 0 header) ∧
        (start + dialer.wait < now → dialed.wire = salt ++ Wire.frame session 0 header) := by
  obtain ⟨session, ofSalt⟩ := dialer.key.session_ok salt
  have bounds := header_some target
  refine ⟨session, ofSalt, fun dialed now untouched => ?_⟩
  have standing := untouched.standing ready drawn ofSalt bounds here
  refine ⟨fun early => ?_, fun late => ?_, fun late => ?_⟩
  · cases standing with
    | @waiting sink there writer idle waits _ =>
        have nothing : dialed.wire = [] := congrArg (fun writer => writer.sink.wire) writer
        refine ⟨nothing, fun data some => ?_, ?_⟩
        · obtain ⟨written, wire, spent⟩ :=
            Dialed.pollWrite_waiting ready drawn ofSalt bounds there idle writer waits some
          refine ⟨written, wire, ?_, fun usage reached later => ((reached.spent spent).pollDeferred later).2⟩
          rw [List.length_take, List.length_append]
        · intro usage reached
          have abandoned : Usage.Abandoned [] ⟨dialed.drop, [], false, true⟩ := by
            refine ⟨rfl, ?_, (Dialed.wire_drop dialed).trans nothing⟩
            rw [Dialed.drop_eq, waits, Deferred.cancel]
          exact (reached.abandoned abandoned).wire
    | sent _ _ late => exact absurd early (Nat.not_lt.mpr late)
  · exact (standing.flushed ready drawn ofSalt bounds late).2
  · cases standing with
    | waiting _ _ _ _ early => exact absurd late (Nat.not_lt.mpr early)
    | sent _ wire _ => exact wire

theorem Dialer.coalesces_loopback :
    let first := eager.establish loopback (Scripted.Source.ofBytes [])
      (⟨.ofScript [] [] [] none, []⟩ : Recorded Scripted.Sink) 0
    Dialed.Untouched Scripted.Sink.IsOpen first 0 first 9 ∧ Dialed.Untouched Scripted.Sink.IsOpen first 0 first 10 ∧
      ∃ session, eager.key.session (Bytes.zeros 16) = .ok session ∧
        (first.pollWrite [7]).2.wire = Bytes.zeros 16 ++ Wire.frame session 0 (loopback ++ [7]) ∧
        (first.pollDeferred 10).2.wire = Bytes.zeros 16 ++ Wire.frame session 0 loopback ∧
        first.drop.wire = [] := by
  intro first
  have target : Dialer.header "127.0.0.1:80" = .ok loopback := rfl
  have isOpen : (Scripted.Sink.ofScript [] [] [] none).IsOpen := ⟨rfl, rfl, rfl, rfl⟩
  have drawn : eager.salts.draw 0 eager.key.saltSize = .ok (Bytes.zeros 16) := rfl
  have waits : ∀ now ≤ 10, Dialed.Untouched Scripted.Sink.IsOpen first 0 first now := fun now early =>
    .later .first (Nat.zero_le now) fun time _ before => if_neg (Nat.not_le.mpr (Nat.lt_of_lt_of_le before early))
  obtain ⟨session, ofSalt, conduct⟩ := eager.coalesces target Scripted.Sink.behaves_isOpen
    (Scripted.Source.ofBytes []) isOpen 0 drawn
  obtain ⟨-, written, dropped⟩ := (conduct first 9 (waits 9 (by decide))).1 (by decide)
  obtain ⟨-, wire, -⟩ := written [7] (List.cons_ne_nil _ _)
  obtain ⟨-, alone, -⟩ := conduct first 10 (waits 10 (Nat.le_refl 10))
  have rest : Wire.frames session 2 (Bytes.pieces 0x3fff ((loopback ++ [7]).drop 0x3fff)) = [] := by
    rw [List.drop_of_length_le (by decide), Bytes.pieces_nil, Wire.frames]
  rw [rest, List.append_nil, List.take_of_length_le (by decide)] at wire
  exact ⟨waits 9 (by decide), waits 10 (Nat.le_refl 10), session, ofSalt, wire, alone (by decide), dropped _ .first⟩

end Coalescing
end SealedTunnel
