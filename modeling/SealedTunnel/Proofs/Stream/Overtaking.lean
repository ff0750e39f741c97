import SealedTunnel.Proofs.Stream.Delivery
import SealedTunnel.Proofs.Stream.Flushing
import SealedTunnel.Proofs.Stream.Plaintext

namespace SealedTunnel

/-- Data that a stream was given: accepted by a write, or queued while that much accepted data waited for its turn. -/
inductive Offer
  | written (data : Bytes)
  | queued (data waiting : Bytes)

namespace Offer

def data : Offer → Bytes
  | written data | queued data _ => data

def waiting : Offer → Bytes
  | written _ => []
  | queued _ waiting => waiting

/-- The data goes to the end of the line, but in front of what is waiting there. -/
def join (line : Bytes) (offer : Offer) : Bytes :=
  line.take (line.length - offer.waiting.length) ++ offer.data ++ offer.waiting

theorem join_queued (before data waiting : Bytes) :
    join (before ++ waiting) (queued data waiting) = before ++ data ++ waiting := by
  simp [join, Offer.data, Offer.waiting]

theorem join_unhindered (line : Bytes) {offer : Offer} (none : offer.waiting = []) :
    join line offer = line ++ offer.data := by
  simp [join, none]

end Offer

def inOrder (offers : List Offer) : Bytes := offers.flatMap Offer.data

/-- The bytes in the order in which they leave. -/
def lined (offers : List Offer) : Bytes := offers.foldl Offer.join []

theorem inOrder_append (offers : List Offer) (offer : Offer) :
    inOrder (offers ++ [offer]) = inOrder offers ++ offer.data := by
  simp [inOrder]

theorem lined_append (offers : List Offer) (offer : Offer) :
    lined (offers ++ [offer]) = Offer.join (lined offers) offer := by
  simp [lined]

theorem lined_unhindered {offers : List Offer} (none : ∀ offer ∈ offers, offer.waiting = []) :
    lined offers = inOrder offers := by
  have behind : ∀ line, offers.foldl Offer.join line = line ++ inOrder offers := by
    induction offers with
    | nil =>
        intro line
        exact (List.append_nil line).symm
    | cons offer rest ih =>
        intro line
        obtain ⟨first, later⟩ := List.forall_mem_cons.mp none
        calc
          rest.foldl Offer.join (Offer.join line offer) = Offer.join line offer ++ inOrder rest := ih later _
          _ = line ++ (offer.data ++ inOrder rest) := by rw [Offer.join_unhindered line first, List.append_assoc]
          _ = line ++ inOrder (offer :: rest) := by rw [inOrder, inOrder, List.flatMap_cons]
  exact behind []

namespace Laden

variable {σ : Type} {key : MasterKey} {salts : SaltSource} {good : σ → Prop} {writer : Writer (Recorded σ)}
  {accepted : Option Operation} {others : List Operation} {total : Bytes}

theorem enqueue_before (laden : Laden key salts good writer accepted others total) (data : Bytes) :
    Laden key salts good (writer.enqueue data) accepted others
      (Offer.join total (.queued data (unsealed accepted.toList))) := by
  obtain ⟨⟨content, transit, whole⟩, bare, here⟩ := laden
  rw [← whole, Offer.join_queued]
  exact ⟨⟨content ++ data, transit.enqueue data, rfl⟩, bare, here⟩

theorem plaintext_isPrefix (laden : Laden key salts good writer accepted others total) :
    Wire.plaintext key writer.sink.wire <+: total := by
  obtain ⟨⟨content, transit, whole⟩, -, -⟩ := laden
  obtain ⟨rest, ⟨payloads, stream, wrote, mended, same⟩, -⟩ := transit.passage
  rw [← Wire.mended_iff.mp mended] at wrote
  rw [← whole, ← same, List.append_assoc]
  exact wrote.plaintext_isPrefix.trans (List.prefix_append _ _)

/-- While nobody is at work, the wire is whole, and the data that it lacks is queued or waits for its turn. -/
theorem whole (laden : Laden key salts good writer accepted others total)
    (idle : ∀ operation ∈ accepted.toList ++ others, operation.stage.isActive = false) :
    (Wire.decode key writer.sink.wire).2 = .whole ∧
      Wire.plaintext key writer.sink.wire ++ writer.queued ++ unsealed accepted.toList = total := by
  obtain ⟨⟨content, transit, whole⟩, -, -⟩ := laden
  obtain ⟨payloads, stream, wrote, mended, same⟩ := transit.passage_idle idle
  rw [List.append_nil, ← Wire.mended_iff.mp mended] at wrote
  rw [wrote.decode, wrote.plaintext, same]
  exact ⟨rfl, whole⟩

theorem write_alone [ByteSink σ] (behaves : Behaves (· = .finished) good) (able : salts.IsAble key)
    (laden : Laden key salts good writer none [] total) (data : Bytes) :
    Wire.plaintext key (writer.poll (.ofRequest (.write data))).writer.sink.wire = total ++ data := by
  have accepted := laden.accept data
  obtain ⟨content, transit, -⟩ := accepted.transit
  obtain ⟨there, finished⟩ := transit.poll_behaves behaves rfl (Or.inr rfl) able laden.here
  have left : (writer.poll (.ofRequest (.write data))).left (.write data) = none := Step.left_finished finished
  have lossless := transit.poll.2 (by rw [finished]; decide)
  have after : Laden key salts good (writer.poll (.ofRequest (.write data))).writer none [] (total ++ data) :=
    left ▸ accepted.first lossless there
  obtain ⟨queued, -⟩ := transit.crew.ended left
  obtain ⟨-, whole⟩ := after.whole (List.forall_mem_nil _)
  have empty : (writer.poll (.ofRequest (.write data))).writer.queued = [] := queued
  rwa [empty, unsealed_none, List.append_nil, List.append_nil] at whole

end Laden

namespace Duplex

variable {ρ σ : Type} [ByteSink σ] {good : σ → Prop}

/-- What a stream and the flushes of other tasks at its writer come to, by calls, each of which may be given up when it
stalls, by steps of those flushes and by changes of the sink; and the data that the stream was given, in order. -/
inductive Offered (good : σ → Prop) (first : Duplex ρ (Recorded σ)) :
    Duplex ρ (Recorded σ) → List Operation → List Offer → Prop
  | start : Offered good first first [] []
  | enqueue {stream : Duplex ρ (Recorded σ)} {flushes : List Operation} {offers : List Offer} (data : Bytes)
      (before : Offered good first stream flushes offers) :
      Offered good first (stream.enqueue data) flushes (offers ++ [.queued data (unsealed stream.inFlight.toList)])
  | write {stream : Duplex ρ (Recorded σ)} {flushes : List Operation} {offers : List Offer} (data : Bytes)
      (before : Offered good first stream flushes offers) :
      Offered good first (stream.pollWrite data).2 flushes (offers ++ [.written (taken data (stream.pollWrite data).1)])
  | flush {stream : Duplex ρ (Recorded σ)} {flushes : List Operation} {offers : List Offer}
      (before : Offered good first stream flushes offers) : Offered good first stream.pollFlush.2 flushes offers
  | shutdown {stream : Duplex ρ (Recorded σ)} {flushes : List Operation} {offers : List Offer}
      (before : Offered good first stream flushes offers) : Offered good first stream.pollShutdown.2 flushes offers
  | call {stream : Duplex ρ (Recorded σ)} {flushes : List Operation} {offers : List Offer}
      (before : Offered good first stream flushes offers) :
      Offered good first stream (.ofRequest .flush :: flushes) offers
  | poll {stream : Duplex ρ (Recorded σ)} {flushes others : List Operation} {operation : Operation}
      {offers : List Offer} (among : flushes.Perm (operation :: others))
      (before : Offered good first stream flushes offers) :
      Offered good first { stream with writer := (stream.writer.poll operation).writer }
        (((stream.writer.poll operation).left operation.request).toList ++ others) offers
  | sink {stream : Duplex ρ (Recorded σ)} {flushes : List Operation} {offers : List Offer} (sink : σ)
      (there : good sink) (before : Offered good first stream flushes offers) :
      Offered good first { stream with writer := stream.writer.withSink sink } flushes offers

variable {first stream : Duplex ρ (Recorded σ)} {flushes : List Operation} {offers : List Offer}
  {invariant : Writer (Recorded σ) → Option Operation → List Operation → Bytes → Prop}

omit [ByteSink σ] in
theorem perm_others_behind (stream : Duplex ρ σ) (mine others : List Operation) :
    (stream.others (mine ++ others)).Perm (mine ++ stream.others others) := by
  have moved := List.perm_append_comm_assoc (stream.pendingFlush.toList ++ stream.pendingShutdown.toList) mine others
  rwa [List.append_assoc, List.append_assoc] at moved

theorem Offered.keeps (shares : Shares invariant)
    (enqueue : ∀ {writer : Writer (Recorded σ)} {accepted : Option Operation} {others : List Operation} {total : Bytes}
      (data : Bytes), invariant writer accepted others total →
        invariant (writer.enqueue data) accepted others (Offer.join total (.queued data (unsealed accepted.toList))))
    (withSink : ∀ {writer : Writer (Recorded σ)} {accepted : Option Operation} {others : List Operation} {total : Bytes}
      {sink : σ}, good sink → invariant writer accepted others total →
        invariant (writer.withSink sink) accepted others total)
    (start : first.Keeps invariant [] []) (offered : Offered good first stream flushes offers) :
    stream.Keeps invariant flushes (lined offers) := by
  induction offered with
  | start => exact start
  | enqueue data before ih =>
      rw [lined_append]
      exact enqueue data ih
  | @write stream flushes offers data before ih =>
      have joined : Offer.join (lined offers) (.written (taken data (stream.pollWrite data).1)) =
          lined offers ++ taken data (stream.pollWrite data).1 := Offer.join_unhindered _ rfl
      rw [lined_append, joined]
      exact ih.pollWrite shares.carries data False.elim
  | flush before ih => exact ih.pollFlush shares.carries False.elim
  | shutdown before ih => exact ih.pollShutdown shares.carries False.elim
  | call before ih =>
      have added := shares.add .flush rfl ih
      exact shares.perm added (perm_others_behind _ [_] _).symm
  | poll among before ih =>
      have whole := shares.perm ih ((among.append_left _).append_left _)
      have carried := shares.other (shares.perm whole (perm_others_behind _ [_] _))
      exact shares.perm carried (perm_others_behind _ _ _).symm
  | sink sink there before ih => exact withSink there ih

variable {key : MasterKey} {salts : SaltSource}

theorem Offered.laden (steady : Steady good) (able : salts.IsAble key)
    (start : first.Keeps (Laden key salts good) [] []) (offered : Offered good first stream flushes offers) :
    stream.Keeps (Laden key salts good) flushes (lined offers) :=
  offered.keeps (Laden.shares steady able) (fun data laden => laden.enqueue_before data)
    (fun there laden => laden.withSink there) start

/-- No byte is lost or doubled by the change of places. -/
theorem Offered.perm (steady : Steady good) (able : salts.IsAble key)
    (start : first.Keeps (Laden key salts good) [] []) (offered : Offered good first stream flushes offers) :
    (lined offers).Perm (inOrder offers) := by
  induction offered with
  | start => exact .refl _
  | enqueue data before ih =>
      obtain ⟨content, -, whole⟩ := (before.laden steady able start).transit
      rw [lined_append, inOrder_append, ← whole, Offer.join_queued]
      rw [← whole] at ih
      have moved : ∀ waiting, (content ++ data ++ waiting).Perm (content ++ waiting ++ data) := by
        intro waiting
        rw [List.append_assoc, List.append_assoc]
        exact List.perm_append_comm.append_left content
      exact (moved _).trans (ih.append_right data)
  | write data before ih =>
      rw [lined_append, inOrder_append, Offer.join_unhindered _ rfl]
      exact ih.append_right _
  | flush before ih | shutdown before ih | call before ih | poll among before ih | sink sink there before ih => exact ih

theorem Offered.unsalted
    (start : first.Keeps (fun writer accepted others _ => Unsalted writer (accepted.toList ++ others)) [] [])
    (offered : Offered good first stream flushes offers) : stream.writer.sink.wire = [] := by
  have kept := offered.keeps shares_unsalted (fun _ unsalted => ⟨unsalted.mute, unsalted.wire, unsalted.rest⟩)
    (fun _ unsalted => ⟨unsalted.mute, unsalted.wire, unsalted.rest⟩) start
  exact kept.wire

omit [ByteSink σ] in
theorem laden_fresh (reader : Reader ρ) (key : MasterKey) (salts : SaltSource) {sink : σ} (here : good sink) :
    (ofHalves reader (Writer.fresh key salts (⟨sink, []⟩ : Recorded σ))).Keeps (Laden key salts good) [] [] :=
  ⟨⟨[], .fresh key salts sink, rfl⟩, List.forall_mem_nil _, here⟩

/-- Over a sink that does not fail, whatever calls are made and however others flush meanwhile: the wire shows the
beginning of the bytes in line, and in the order in which they were accepted if none was queued while an accepted write
waited for its turn. All of them are in line, and while nobody is at work those that the wire lacks are queued or
waiting. -/
theorem leaves_in_line (steady : Steady good) (reader : Reader ρ) (key : MasterKey) (salts : SaltSource) (sink : σ)
    (here : good sink)
    (offered : Offered good (ofHalves reader (Writer.fresh key salts ⟨sink, []⟩)) stream flushes offers) :
    Wire.plaintext key stream.writer.sink.wire <+: lined offers ∧
      ((∀ offer ∈ offers, offer.waiting = []) → Wire.plaintext key stream.writer.sink.wire <+: inOrder offers) ∧
      (salts.IsAble key → (lined offers).Perm (inOrder offers) ∧
        ((∀ operation ∈ stream.inFlight.toList ++ stream.others flushes, operation.stage.isActive = false) →
          (Wire.decode key stream.writer.sink.wire).2 = .whole ∧
            Wire.plaintext key stream.writer.sink.wire ++ stream.writer.queued ++ unsealed stream.inFlight.toList =
              lined offers)) := by
  have start := laden_fresh reader key salts here
  have begins : Wire.plaintext key stream.writer.sink.wire <+: lined offers := by
    rcases salts.draw_all key.saltSize with able | unable
    · exact (offered.laden steady able start).plaintext_isPrefix
    · have none := offered.unsalted ⟨⟨rfl, unable⟩, rfl, List.forall_mem_nil _⟩
      rw [none, Wire.plaintext_nil]
      exact List.nil_prefix
  refine ⟨begins, ?_, ?_⟩
  · intro unhindered
    rwa [lined_unhindered unhindered] at begins
  · intro able
    exact ⟨offered.perm steady able start, (offered.laden steady able start).whole⟩

theorem finished_pollInFlight (behaves : Behaves (· = .finished) good) (able : salts.IsAble key) {total : Bytes}
    (keeps : stream.Keeps (Laden key salts good) [] total) (clear : stream.IsClear) :
    stream.pollInFlight.1.outcome = .finished := by
  unfold pollInFlight
  cases kept : stream.inFlight with
  | none => rfl
  | some operation =>
      have laden : Laden key salts good stream.writer (some operation) [] total := by
        unfold Keeps at keeps
        rwa [kept, stream.others_eq_nil.mpr clear] at keeps
      obtain ⟨content, transit, -⟩ := laden.transit
      dsimp only
      rw [carry_eq]
      exact (transit.poll_behaves behaves rfl (Or.inr rfl) able laden.here).2

theorem plaintext_pollWrite (behaves : Behaves (· = .finished) good) (able : salts.IsAble key) {total data : Bytes}
    (keeps : stream.Keeps (Laden key salts good) [] total) (clear : stream.IsClear) (some : data ≠ []) :
    Wire.plaintext key (stream.pollWrite data).2.writer.sink.wire = total ++ data := by
  have steady : Steady good := behaves.weaken fun outcome finished => by rw [finished]; decide
  have finished := finished_pollInFlight behaves able keeps clear
  have after := keeps.pollInFlight (Laden.shares steady able).carries False.elim
  have free : stream.pollInFlight.2.inFlight = none :=
    inFlight_pollInFlight stream ((Poll.isReady_iff _).mpr (by rw [finished]; decide))
  obtain ⟨flush, shutdown⟩ := pending_pollInFlight stream
  have alone := stream.pollInFlight.2.others_eq_nil.mpr ⟨flush.trans clear.1, shutdown.trans clear.2⟩
  unfold Keeps at after
  rw [free, alone] at after
  rw [writer_pollWrite finished some]
  exact after.write_alone behaves able data

/-- What `reluctant` comes to when the flush of another task stalls, two bytes are accepted behind it, one is queued and
the flush comes to its end. -/
def overtaken : Duplex Scripted.Source (Recorded Scripted.Sink) :=
  let flushing := { reluctant with writer := (reluctant.writer.poll (.ofRequest .flush)).writer }
  let waiting := (flushing.pollWrite [0xaa, 0xbb]).2.enqueue [0xcc]
  { waiting with writer := (waiting.writer.poll ⟨.flush, .finishing 0⟩).writer }

theorem offered_overtaken :
    Offered Scripted.Sink.IsSteady reluctant overtaken [] [.written [0xaa, 0xbb], .queued [0xcc] [0xaa, 0xbb]] := by
  have flushing : Offered Scripted.Sink.IsSteady reluctant _ [⟨.flush, .finishing 0⟩] [] :=
    .poll (.refl _) (.call .start)
  have waiting : Offered Scripted.Sink.IsSteady reluctant _ [⟨.flush, .finishing 0⟩] _ :=
    .enqueue [0xcc] (.write [0xaa, 0xbb] flushing)
  exact .poll (.refl _) waiting

theorem leaves_in_line_overtaken :
    let shown := Wire.plaintext reluctant.writer.sealer.key overtaken.writer.sink.wire
    reluctant.writer.sink.sink.IsSteady ∧ shown <+: [0xcc, 0xaa, 0xbb] ∧
      List.Perm [0xcc, 0xaa, 0xbb] ([0xaa, 0xbb, 0xcc] : Bytes) ∧
        shown ++ [0xcc] ++ [0xaa, 0xbb] = [0xcc, 0xaa, 0xbb] := by
  intro shown
  have here : reluctant.writer.sink.sink.IsSteady := ⟨by decide, by decide, by decide⟩
  have able : (SaltSource.fixed (Bytes.zeros 16)).IsAble reluctant.writer.sealer.key := fun attempt => ⟨_, rfl⟩
  obtain ⟨begins, -, all⟩ := leaves_in_line Scripted.Sink.steady_isSteady _ _ _ _ here offered_overtaken
  obtain ⟨perm, settled⟩ := all able
  have idle : ∀ operation ∈ overtaken.inFlight.toList ++ overtaken.others [], operation.stage.isActive = false := by
    decide
  exact ⟨here, begins, perm, (settled idle).2⟩

/-- Bytes do not always leave in the order in which they were accepted or queued. -/
theorem overtakes :
    ¬ ∀ stream flushes offers, Offered Scripted.Sink.IsSteady reluctant stream flushes offers →
      Wire.plaintext reluctant.writer.sealer.key stream.writer.sink.wire <+: inOrder offers := by
  intro ordered
  have here : reluctant.writer.sink.sink.IsSteady := ⟨by decide, by decide, by decide⟩
  have able : (SaltSource.fixed (Bytes.zeros 16)).IsAble reluctant.writer.sealer.key := fun attempt => ⟨_, rfl⟩
  have fresh := laden_fresh (Reader.fresh reluctant.writer.sealer.key (Scripted.Source.ofBytes []))
    reluctant.writer.sealer.key (.fixed (Bytes.zeros 16)) here
  have laden := offered_overtaken.laden Scripted.Sink.steady_isSteady able fresh
  have isOpen : overtaken.Keeps (Laden _ _ Scripted.Sink.IsOpen) [] [0xcc, 0xaa, 0xbb] :=
    ⟨laden.transit, laden.bare, rfl, rfl, rfl, rfl⟩
  -- Once another byte is written, the wire shows those in line, and they are not in order.
  have shown : Wire.plaintext _ (overtaken.pollWrite [0xdd]).2.writer.sink.wire = [0xcc, 0xaa, 0xbb] ++ [0xdd] :=
    plaintext_pollWrite Scripted.Sink.behaves_isOpen able isOpen ⟨rfl, rfl⟩ (by decide)
  obtain ⟨more, whole⟩ := ordered _ _ _ (.write [0xdd] offered_overtaken)
  rw [shown] at whole
  have head : (0xcc : UInt8) = 0xaa := Option.some.inj (congrArg List.head? whole)
  exact absurd head (by decide)

end Duplex
end SealedTunnel
