import SealedTunnel.Proofs.Dialing.Keeping
import SealedTunnel.Proofs.Scripted.Sink
import SealedTunnel.Proofs.Stream.Gaps

namespace SealedTunnel

namespace Dialed

variable {ρ σ : Type} [ByteSink σ]

def deferredNotes (dialed : Dialed ρ σ) (now : Nat) : List Note :=
  match dialed.deferred.turn? now with
  | some operation => (dialed.stream.writer.pollNoted operation).notes
  | none => []

/-- A dialed stream in use, as long as no call has failed: its calls, each of which may be given up while it stalls,
steps of the flush in the background, whatever they come to, and changes of the sink, which may do as it likes; the data
that was accepted, and the notes of the background. -/
inductive Unfailed (first : Dialed ρ (Recorded σ)) : Dialed ρ (Recorded σ) → Bytes → List Note → Prop
  | first : Unfailed first first [] []
  | write {dialed : Dialed ρ (Recorded σ)} {accepted : Bytes} {notes : List Note} (data : Bytes)
      (before : Unfailed first dialed accepted notes) (unfailed : (dialed.pollWrite data).1.outcome ≠ .failed) :
      Unfailed first (dialed.pollWrite data).2 (accepted ++ taken data (dialed.pollWrite data).1) notes
  | flush {dialed : Dialed ρ (Recorded σ)} {accepted : Bytes} {notes : List Note}
      (before : Unfailed first dialed accepted notes) (unfailed : dialed.pollFlush.1.outcome ≠ .failed) :
      Unfailed first dialed.pollFlush.2 accepted notes
  | shutdown {dialed : Dialed ρ (Recorded σ)} {accepted : Bytes} {notes : List Note}
      (before : Unfailed first dialed accepted notes) (unfailed : dialed.pollShutdown.1.outcome ≠ .failed) :
      Unfailed first dialed.pollShutdown.2 accepted notes
  | background {dialed : Dialed ρ (Recorded σ)} {accepted : Bytes} {notes : List Note} (now : Nat)
      (before : Unfailed first dialed accepted notes) :
      Unfailed first (dialed.pollDeferred now).2 accepted (notes ++ dialed.deferredNotes now)
  | sink {dialed : Dialed ρ (Recorded σ)} {accepted : Bytes} {notes : List Note} (sink : σ)
      (before : Unfailed first dialed accepted notes) :
      Unfailed first { dialed with stream.writer := dialed.stream.writer.withSink sink } accepted notes

variable {key : MasterKey} {salts : SaltSource} {first dialed : Dialed ρ (Recorded σ)} {header accepted total : Bytes}
  {notes : List Note} {now : Nat}

theorem Keeps.lossless (keeps : dialed.Keeps (Laden key salts fun _ => True) total)
    (lossless : Lossless (dialed.deferredNotes now)) :
    (dialed.pollDeferred now).2.Keeps (Laden key salts fun _ => True) total := by
  refine keeps.background Laden.carries_strict (fun laden => laden.add rfl) ?_
  intro operation turn laden
  rw [deferredNotes, turn] at lossless
  exact laden.other lossless trivial

theorem Unfailed.laden (unfailed : Unfailed first dialed accepted notes)
    (start : first.Keeps (Laden key salts fun _ => True) header) (lossless : Lossless notes) :
    dialed.Keeps (Laden key salts fun _ => True) (header ++ accepted) := by
  induction unfailed with
  | first =>
      rw [List.append_nil]
      exact start
  | write data before unfailed ih =>
      rw [← List.append_assoc]
      exact (ih lossless).pollWrite Laden.carries_strict data fun _ => unfailed
  | flush before unfailed ih => exact (ih lossless).pollFlush Laden.carries_strict fun _ => unfailed
  | shutdown before unfailed ih => exact (ih lossless).pollShutdown Laden.carries_strict fun _ => unfailed
  | background now before ih =>
      obtain ⟨earlier, latest⟩ := List.forall_mem_append.mp lossless
      exact (ih earlier).lossless latest
  | sink sink before ih => exact (ih lossless).withSink trivial

theorem Unfailed.tidy (unfailed : Unfailed first dialed accepted notes)
    (start : first.Keeps (fun writer accepted others _ => Tidy writer (accepted.toList ++ others)) []) :
    dialed.Keeps (fun writer accepted others _ => Tidy writer (accepted.toList ++ others)) [] := by
  induction unfailed with
  | first => exact start
  | write data before unfailed ih => exact ih.pollWrite shares_tidy.carries data False.elim
  | flush before unfailed ih => exact ih.pollFlush shares_tidy.carries False.elim
  | shutdown before unfailed ih => exact ih.pollShutdown shares_tidy.carries False.elim
  | background now before ih => exact ih.pollDeferred shares_tidy now
  | sink sink before ih => exact ⟨ih.crew, ih.taken⟩

end Dialed

/-- What has come to its end has sent everything, if whoever was at work had taken what was queued. -/
theorem Duplex.Slot.encodes_poll {ρ σ : Type} [ByteSink σ] {key : MasterKey} {salts : SaltSource}
    {stream : Duplex ρ (Recorded σ)} {behind : List Operation} {total : Bytes} (slot : Slot)
    (keeps : stream.Keeps (Laden key salts fun _ => True) behind total)
    (tidy : Tidy stream.writer (stream.inFlight.toList ++ stream.others behind))
    (finished : (slot.poll stream).1.outcome = .finished) :
    Wire.Encodes key total (slot.poll stream).2.writer.sink.wire := by
  have after := keeps.pollSlot slot Laden.carries_strict fun _ failed => by cases finished.symm.trans failed
  obtain ⟨sent, encodes, whole⟩ := Laden.ended after (slot.ended_poll tidy.crew finished)
  rw [slot.queued_poll tidy finished, List.append_nil] at whole
  rwa [whole] at encodes

namespace Dialer

variable {ρ σ : Type}

theorem laden_establish (dialer : Dialer) (header : Bytes) (source : ρ) (sink : σ) (now : Nat) :
    (dialer.establish header source (⟨sink, []⟩ : Recorded σ) now).Keeps
      (Laden dialer.key dialer.salts fun _ => True) header := by
  have fresh := Transit.fresh dialer.key dialer.salts sink
  exact ⟨⟨header, fresh.enqueue header, List.append_nil header⟩, List.forall_mem_nil _, trivial⟩

/-- A dialed stream over any sink, as long as no call has failed: when a flush or a shutdown has come to its end and the
flush in the background has lost nothing, the wire holds a whole encoding of the target's address and all accepted
data. -/
theorem delivers_all [ByteSink σ] (dialer : Dialer) {address : String} {header : Bytes}
    (_ : Dialer.header address = .ok header) (source : ρ) (sink : σ) (now : Nat) {dialed : Dialed ρ (Recorded σ)}
    {accepted : Bytes} {notes : List Note}
    (unfailed : Dialed.Unfailed (dialer.establish header source ⟨sink, []⟩ now) dialed accepted notes)
    (lossless : Lossless notes) :
    (dialed.pollFlush.1.outcome = .finished →
      Wire.Encodes dialer.key (header ++ accepted) dialed.pollFlush.2.stream.writer.sink.wire) ∧
    (dialed.pollShutdown.1.outcome = .finished →
      Wire.Encodes dialer.key (header ++ accepted) dialed.pollShutdown.2.stream.writer.sink.wire) := by
  have keeps := unfailed.laden (dialer.laden_establish header source sink now) lossless
  have tidy := unfailed.tidy ⟨.none, List.forall_mem_nil _⟩
  constructor
  · intro finished
    exact Duplex.Slot.flush.encodes_poll keeps tidy finished
  · intro finished
    exact Duplex.Slot.shutdown.encodes_poll keeps tidy finished

def eager : Dialer := ⟨⟨⟨"aes-128-gcm", "AEAD_AES_128_GCM", .aes128Gcm⟩, []⟩, .fixed (Bytes.zeros 16), usualWait⟩

def loopback : Bytes := [1, 127, 0, 0, 1, 0, 80]

def begun (writes : List Scripted.WriteOutcome) : Dialed Unit (Recorded Scripted.Sink) :=
  eager.establish loopback () ⟨.ofScript writes [] [] none, []⟩ 0

theorem delivers_all_begun :
    let late := ((begun []).pollDeferred 10).2
    Lossless ((begun []).deferredNotes 10) ∧ late.pollFlush.1.outcome = .finished ∧
      Wire.Encodes eager.key loopback late.pollFlush.2.stream.writer.sink.wire := by
  intro late
  have here : (begun []).stream.writer.sink.sink.IsOpen := ⟨rfl, rfl, rfl, rfl⟩
  have able : eager.salts.IsAble eager.key := fun attempt => ⟨_, rfl⟩
  have asked : Transit eager.key eager.salts [] (begun []).stream.writer [.ofRequest .flush] loopback :=
    ((Transit.fresh _ _ _).enqueue loopback).add .flush
  obtain ⟨there, sent⟩ := asked.poll_behaves Scripted.Sink.behaves_isOpen rfl (Or.inr rfl) able here
  obtain ⟨⟨content, after, -⟩, unfailed⟩ := asked.poll
  have lossless : Lossless ((begun []).deferredNotes 10) := unfailed (by rw [sent]; decide)
  rw [Step.left_finished sent] at after
  obtain ⟨-, finished⟩ := (after.add .flush).poll_behaves Scripted.Sink.behaves_isOpen rfl (Or.inr rfl) able there
  have turn : (begun []).deferred.turn? 10 = some (.ofRequest .flush) := rfl
  have stream := Dialed.stream_carryFlush (begun []) (.ofRequest .flush)
  rw [← Dialed.pollDeferred_turn turn] at stream
  have flushed : late.stream.pollFlush.1.outcome = .finished := by
    have carried := congrArg Prod.fst (Duplex.carry_eq late.stream.writer (.ofRequest .flush))
    rw [stream] at carried ⊢
    exact (congrArg Poll.outcome carried).trans finished
  have target : Dialer.header "127.0.0.1:80" = .ok loopback := rfl
  have due : Dialed.Unfailed (begun []) late [] _ := .background 10 .first
  exact ⟨lossless, flushed, (eager.delivers_all target () _ 0 due lossless).1 flushed⟩

/-- When the flush in the background has failed, the next one succeeds and nothing has arrived. -/
theorem undelivered_begun :
    ¬ ∀ dialed accepted notes, Dialed.Unfailed (begun [.fail (.os 32)]) dialed accepted notes →
      dialed.pollFlush.1.outcome = .finished →
        Wire.Encodes eager.key (loopback ++ accepted) dialed.pollFlush.2.stream.writer.sink.wire := by
  intro delivers
  have drawn : eager.salts.draw 0 eager.key.saltSize = .ok (Bytes.zeros 16) := rfl
  obtain ⟨session, ofSalt⟩ := eager.key.session_ok (Bytes.zeros 16)
  have fails : ∀ bytes ≠ [], ByteSink.write (begun [.fail (.os 32)]).stream.writer.sink.sink bytes =
      (.ready (.error (.os 32)), .ofScript [] [] [] none) := fun bytes _ => rfl
  obtain ⟨sealer, -, -, failed⟩ := @Writer.poll_first_fails _ _ _ _ _ eager.key eager.salts _ session loopback .flush
    drawn ofSalt fails (by decide) (by decide)
  have late : Dialed.Unfailed (begun [.fail (.os 32)]) _ [] _ := .background 10 .first
  have turn : (begun [.fail (.os 32)]).deferred.turn? 10 = some (.ofRequest .flush) := rfl
  have failed : (begun [.fail (.os 32)]).stream.writer.poll (.ofRequest .flush) = _ := failed
  rw [Dialed.pollDeferred_turn turn, Dialed.carryFlush, failed] at late
  have empty := Wire.eq_nil_of_encodes (delivers _ _ _ late rfl)
  cases empty

end Dialer
end SealedTunnel
