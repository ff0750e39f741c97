import SealedTunnel.Proofs.Stream.Deadlock
import SealedTunnel.Proofs.Stream.Settling

namespace SealedTunnel

/-- An operation that has been carried on and still waits does so behind others. -/
theorem Crew.left_behind {σ : Type} [ByteSink σ] {writer : Writer σ} {operation later : Operation}
    {others : List Operation} (crew : Crew writer.lock (operation :: others))
    (left : (writer.poll operation).left operation.request = some later) (idle : later.stage.isActive = false) :
    others ≠ [] := by
  cases crew.carried with
  | @granted ticket asked asks _ holds _ step =>
      have turn := Writer.turn_keeps { writer with lock := asked } operation.request ticket operation.stage
      rw [← step] at turn
      cases idle.symm.trans (turn.left left).1
  | waits asks crew behind _ step =>
      rintro rfl
      exact behind crew.serves.only

/-- Data on its way, where an accepted write waits only for operations that were begun before it. -/
structure Moving {σ : Type} (key : MasterKey) (salts : SaltSource) (good : σ → Prop) (writer : Writer (Recorded σ))
    (accepted : Option Operation) (others : List Operation) (total : Bytes) : Prop where
  laden : Laden key salts good writer accepted others total
  orderly : Orderly writer accepted others
  behind : ∀ operation, accepted = some operation → operation.stage.isActive = false → others ≠ []

section Moving

variable {σ : Type} [ByteSink σ] {key : MasterKey} {salts : SaltSource} {good : σ → Prop}

theorem carries_moving (steady : Steady good) (able : salts.IsAble key) : Carries False (Moving key salts good) where
  perm := by
    rintro writer accepted others same total ⟨laden, orderly, behind⟩ perm
    refine ⟨laden.perm perm, orderly.perm perm, ?_⟩
    rintro operation kept idle rfl
    exact behind operation kept idle perm.eq_nil
  first := by
    rintro writer operation others total ⟨laden, orderly, -⟩ unfailed
    have carried := (Laden.carries_steady steady able).first laden unfailed
    exact ⟨carried, orderly.first, fun later left => Crew.left_behind orderly.crew left⟩
  accept := by
    rintro writer others total data ⟨laden, orderly, -⟩ unfailed
    have accepted := (Laden.carries_steady steady able).accept data laden unfailed
    exact ⟨accepted, orderly.accept data, fun later left => (Crew.add orderly.crew (.write data)).left_behind left⟩
  refuse := by
    rintro writer others total data lax ⟨laden, orderly, -⟩ failed
    have refused := (Laden.carries_steady steady able).refuse data lax laden failed
    exact ⟨refused, orderly.refuse failed, fun operation none => by cases none⟩
  slot := by
    rintro writer kept others total request bare ⟨laden, orderly, -⟩ unfailed
    have carried := (Laden.carries_steady steady able).slot request bare laden unfailed
    exact ⟨carried, orderly.slot request, fun operation none => by cases none⟩

end Moving

namespace Duplex

variable {ρ σ : Type}

/-- The wire holds all of this data but for what is left, which is queued. -/
def HasSent (key : MasterKey) (total left : Bytes) (stream : Duplex ρ (Recorded σ)) : Prop :=
  ∃ sent, Wire.Encodes key sent stream.writer.sink.wire ∧ sent ++ left = total ∧ stream.writer.queued = left

structure IsStuck (stream : Duplex ρ σ) : Prop where
  orderly : stream.IsOrderly
  accepted : stream.inFlight ≠ none
  pending : ¬ stream.IsClear

variable [ByteSink σ]

theorem IsStuck.calls {stream : Duplex ρ σ} (stuck : stream.IsStuck) :
    ∃ ticket, (∀ data, stream.pollWrite data = (.stalled (.turn ticket), stream)) ∧
      stream.pollFlush = (.stalled (.turn ticket), stream) ∧
      stream.pollShutdown = (.stalled (.turn ticket), stream) := by
  obtain ⟨ticket, waits⟩ := pollInFlight_stuck stuck.orderly stuck.accepted stuck.pending
  refine ⟨ticket, fun data => ?_, ?_, ?_⟩
  · rw [pollWrite, waits]
  · rw [pollFlush, waits]
  · rw [pollShutdown, waits]

/-- What a stream comes to by calls, each of which may be given up when it stalls, and by changes of its sink, and the
data that it was given, in order. -/
inductive Fed (good : σ → Prop) (first : Duplex ρ (Recorded σ)) : Duplex ρ (Recorded σ) → Bytes → Prop
  | start : Fed good first first []
  | enqueue {stream : Duplex ρ (Recorded σ)} {total : Bytes} (data : Bytes) (before : Fed good first stream total) :
      Fed good first (stream.enqueue data) (total ++ data)
  | write {stream : Duplex ρ (Recorded σ)} {total : Bytes} (data : Bytes) (before : Fed good first stream total) :
      Fed good first (stream.pollWrite data).2 (total ++ taken data (stream.pollWrite data).1)
  | flush {stream : Duplex ρ (Recorded σ)} {total : Bytes} (before : Fed good first stream total) :
      Fed good first stream.pollFlush.2 total
  | shutdown {stream : Duplex ρ (Recorded σ)} {total : Bytes} (before : Fed good first stream total) :
      Fed good first stream.pollShutdown.2 total
  | sink {stream : Duplex ρ (Recorded σ)} {total : Bytes} (sink : σ) (here : good sink)
      (before : Fed good first stream total) :
      Fed good first { stream with writer := stream.writer.withSink sink } total

/-- Everything moves on, or nothing does any more. -/
def Sound (key : MasterKey) (salts : SaltSource) (good : σ → Prop) (stream : Duplex ρ (Recorded σ)) (total : Bytes) :
    Prop :=
  stream.Keeps (Moving key salts good) [] total ∨ stream.IsStuck

variable {key : MasterKey} {salts : SaltSource} {good : σ → Prop} {first stream : Duplex ρ (Recorded σ)} {total : Bytes}

omit [ByteSink σ] in
/-- When data is queued while an accepted write waits for others, neither will ever be sent. -/
theorem Sound.enqueue (sound : stream.Sound key salts good total) (data : Bytes) :
    (stream.enqueue data).Sound key salts good (total ++ data) := by
  rcases sound with ⟨laden, orderly, behind⟩ | ⟨orderly, accepted, pending⟩
  · have still : (stream.enqueue data).IsOrderly := ⟨orderly.crew, orderly.asked, orderly.ahead⟩
    by_cases sealed : ∀ operation, stream.inFlight = some operation → operation.stage.isActive
    · exact Or.inl ⟨laden.enqueue data sealed, still, behind⟩
    · simp only [Classical.not_forall] at sealed
      obtain ⟨operation, kept, waits⟩ := sealed
      refine Or.inr ⟨still, ?_, ?_⟩
      · exact Option.ne_none_iff_exists'.mpr ⟨operation, kept⟩
      · intro clear
        exact behind operation kept (Bool.eq_false_iff.mpr waits) (stream.others_eq_nil.mpr clear)
  · exact Or.inr ⟨⟨orderly.crew, orderly.asked, orderly.ahead⟩, accepted, pending⟩

omit [ByteSink σ] in
theorem Sound.withSink (sound : stream.Sound key salts good total) {sink : σ} (there : good sink) :
    Sound key salts good { stream with writer := stream.writer.withSink sink } total := by
  rcases sound with ⟨laden, orderly, behind⟩ | ⟨orderly, accepted, pending⟩
  · exact Or.inl ⟨laden.withSink there, ⟨orderly.crew, orderly.asked, orderly.ahead⟩, behind⟩
  · exact Or.inr ⟨⟨orderly.crew, orderly.asked, orderly.ahead⟩, accepted, pending⟩

theorem Sound.write (steady : Steady good) (able : salts.IsAble key) (sound : stream.Sound key salts good total)
    (data : Bytes) :
    (stream.pollWrite data).2.Sound key salts good (total ++ taken data (stream.pollWrite data).1) := by
  rcases sound with moving | stuck
  · exact Or.inl (moving.pollWrite (carries_moving steady able) data False.elim)
  · obtain ⟨ticket, write, -⟩ := stuck.calls
    rw [write]
    exact Or.inr stuck

theorem Sound.slot (steady : Steady good) (able : salts.IsAble key) (sound : stream.Sound key salts good total)
    (slot : Slot) : (slot.poll stream).2.Sound key salts good total := by
  rcases sound with moving | stuck
  · exact Or.inl (moving.pollSlot slot (carries_moving steady able) False.elim)
  · obtain ⟨ticket, -, flush, shutdown⟩ := stuck.calls
    have still : (slot.poll stream).2 = stream := by
      cases slot with
      | flush => exact congrArg Prod.snd flush
      | shutdown => exact congrArg Prod.snd shutdown
    rw [still]
    exact Or.inr stuck

theorem Sound.fed (steady : Steady good) (able : salts.IsAble key) (sound : first.Sound key salts good [])
    (fed : Fed good first stream total) : stream.Sound key salts good total := by
  induction fed with
  | start => exact sound
  | enqueue data before ih => exact ih.enqueue data
  | write data before ih => exact ih.write steady able data
  | flush before ih => exact ih.slot steady able .flush
  | shutdown before ih => exact ih.slot steady able .shutdown
  | sink sink here before ih => exact ih.withSink here

omit [ByteSink σ] in
theorem sound_fresh (reader : Reader ρ) (key : MasterKey) (salts : SaltSource) {sink : σ} (here : good sink) :
    (ofHalves reader (Writer.fresh key salts (⟨sink, []⟩ : Recorded σ))).Sound key salts good [] := by
  refine Or.inl ⟨⟨⟨[], .fresh key salts sink, rfl⟩, List.forall_mem_nil _, here⟩, orderly_fresh reader key salts _, ?_⟩
  intro operation none
  cases none

omit [ByteSink σ] in
theorem Sound.crew (sound : stream.Sound key salts good total) :
    Crew stream.writer.lock (stream.inFlight.toList ++ stream.others []) := by
  rcases sound with moving | stuck
  · exact moving.laden.crew
  · exact stuck.orderly.crew

omit [ByteSink σ] in
theorem Sound.ended {kept : Option Operation} {after : Duplex ρ (Recorded σ)}
    (sound : after.Sound key salts good total) (ended : Ended kept [] stream after) :
    after.HasSent key total (if midway kept then stream.writer.queued else []) := by
  rcases sound with moving | stuck
  · obtain ⟨sent, encodes, whole⟩ := Laden.ended moving.laden ended
    rw [ended.queued] at whole
    exact ⟨sent, encodes, whole, ended.queued⟩
  · exact absurd ended.accepted stuck.accepted

/-- Over a sink that does not fail, with salts that can be had, and whatever calls were made and given up before: when
a flush or a shutdown has come to its end, the wire holds a whole encoding of all data that was accepted or queued, but
for what was queued while an earlier such call, which was given up, was at work already. -/
theorem has_sent (steady : Steady good) (able : salts.IsAble key) (reader : Reader ρ) (sink : σ) (here : good sink)
    (fed : Fed good (ofHalves reader (Writer.fresh key salts ⟨sink, []⟩)) stream total) :
    (stream.pollFlush.1.outcome = .finished →
      stream.pollFlush.2.HasSent key total (if midway stream.pendingFlush then stream.writer.queued else [])) ∧
    (stream.pollShutdown.1.outcome = .finished →
      stream.pollShutdown.2.HasSent key total (if midway stream.pendingShutdown then stream.writer.queued else [])) := by
  have sound := (sound_fresh reader key salts here).fed steady able fed
  constructor
  · intro finished
    exact (sound.slot steady able .flush).ended (Slot.flush.ended_poll sound.crew finished)
  · intro finished
    exact (sound.slot steady able .shutdown).ended (Slot.shutdown.ended_poll sound.crew finished)

def reluctant : Duplex Scripted.Source (Recorded Scripted.Sink) :=
  let key : MasterKey := ⟨⟨"aes-128-gcm", "AEAD_AES_128_GCM", .aes128Gcm⟩, []⟩
  let sink : Scripted.Sink := .ofScript [] [.yield] [] none
  ofHalves (Reader.fresh key (.ofBytes [])) (Writer.fresh key (.fixed (Bytes.zeros 16)) ⟨sink, []⟩)

/-- Data that is queued behind a flush that stalled is still queued when that flush has come to its end, and a shutdown
sends it. -/
theorem has_sent_reluctant :
    let key := reluctant.writer.sealer.key
    let flushed := (reluctant.pollFlush.2.enqueue [0xaa, 0xbb]).pollFlush
    flushed.1.outcome = .finished ∧ flushed.2.HasSent key [0xaa, 0xbb] [0xaa, 0xbb] ∧
      flushed.2.pollShutdown.1.outcome = .finished ∧ flushed.2.pollShutdown.2.HasSent key [0xaa, 0xbb] [] := by
  intro key flushed
  have here : reluctant.writer.sink.sink.IsSteady := ⟨by decide, by decide, by decide⟩
  have able : (SaltSource.fixed (Bytes.zeros 16)).IsAble key := fun attempt => ⟨_, rfl⟩
  have queued : Fed Scripted.Sink.IsSteady reluctant _ [0xaa, 0xbb] := .enqueue [0xaa, 0xbb] (.flush .start)
  obtain ⟨first, -⟩ := has_sent Scripted.Sink.steady_isSteady able _ _ here queued
  obtain ⟨-, second⟩ := has_sent Scripted.Sink.steady_isSteady able _ _ here queued.flush
  have shut : flushed.2.pollShutdown.1.outcome = .finished := by
    have carried := congrArg Prod.fst (carry_eq flushed.2.writer (.ofRequest .shutdown))
    refine (congrArg Poll.outcome carried).trans ?_
    rcases (sound_fresh _ key _ here).fed Scripted.Sink.steady_isSteady able queued.flush with moving | stuck
    · obtain ⟨content, transit, -⟩ := moving.laden.transit
      have isOpen : flushed.2.writer.sink.sink.IsOpen := ⟨rfl, rfl, rfl, rfl⟩
      exact ((transit.add .shutdown).poll_behaves Scripted.Sink.behaves_isOpen rfl (Or.inr rfl) able isOpen).2
    · exact absurd rfl stuck.accepted
  exact ⟨rfl, first rfl, shut, second shut⟩

/-- A flush that has come to its end has not always sent what was queued before it was called. -/
theorem unsent_reluctant :
    ¬ ∀ stream total, Fed Scripted.Sink.IsSteady reluctant stream total → stream.pollFlush.1.outcome = .finished →
      Wire.Encodes reluctant.writer.sealer.key total stream.pollFlush.2.writer.sink.wire := by
  intro sends
  have queued : Fed Scripted.Sink.IsSteady reluctant (reluctant.pollFlush.2.enqueue [0xaa, 0xbb]) [0xaa, 0xbb] :=
    .enqueue [0xaa, 0xbb] (.flush .start)
  cases Wire.eq_nil_of_encodes (sends _ _ queued rfl)

end Duplex
end SealedTunnel
