import SealedTunnel.Proofs.Dialing.Keeping
import SealedTunnel.Proofs.Scripted.Sink
import SealedTunnel.Proofs.Stream.Overtaking

/-!
A dialed stream in use. Its calls come in any order, each may be given up while it stalls, the flush in the background
goes on at any time, also once the stream has been dropped, and the salts may come from one source after another.
-/
namespace SealedTunnel

structure Usage (ρ σ : Type) where
  dialed : Dialed ρ (Recorded σ)
  accepted : Bytes
  isShut : Bool
  isDropped : Bool

namespace Usage

variable {ρ σ : Type}

def begin (dialed : Dialed ρ (Recorded σ)) : Usage ρ σ := ⟨dialed, [], false, false⟩

def wire (usage : Usage ρ σ) : Bytes := usage.dialed.stream.writer.sink.wire

variable [ByteSink σ]

/-- What may happen next: a call while the stream is not dropped, a step of the flush in the background, a change of
the sink by itself, or another source of salts in place of the one before, as when entropy fails and comes back. -/
inductive Step (good : σ → Prop) (usage : Usage ρ σ) : Usage ρ σ → Prop
  | write (data : Bytes) (held : usage.isDropped = false) :
      Step good usage { usage with
        dialed := (usage.dialed.pollWrite data).2
        accepted := usage.accepted ++ taken data (usage.dialed.pollWrite data).1 }
  | flush (held : usage.isDropped = false) : Step good usage { usage with dialed := usage.dialed.pollFlush.2 }
  | shutdown (held : usage.isDropped = false) :
      Step good usage { usage with
        dialed := usage.dialed.pollShutdown.2
        isShut := usage.isShut || usage.dialed.pollShutdown.1.outcome == .finished }
  | drop (held : usage.isDropped = false) :
      Step good usage { usage with dialed := usage.dialed.drop, isDropped := true }
  | background (now : Nat) : Step good usage { usage with dialed := (usage.dialed.pollDeferred now).2 }
  | sink (sink : σ) (here : good sink) :
      Step good usage { usage with dialed.stream.writer := usage.dialed.stream.writer.withSink sink }
  | salts (salts : SaltSource) : Step good usage { usage with dialed := usage.dialed.withSalts salts }

inductive Reached (good : σ → Prop) (first : Usage ρ σ) : Usage ρ σ → Prop
  | first : Reached good first first
  | step {usage next : Usage ρ σ} (reached : Reached good first usage) (step : Step good usage next) :
      Reached good first next

omit [ByteSink σ] in
/-- The wire begins an encoding of the data, but for a front that was lost to salts that could not be had. -/
def Arrives (key : MasterKey) (data : Bytes) (usage : Usage ρ σ) : Prop :=
  ∃ lost kept, lost ++ kept = data ∧ Wire.Begins key kept usage.wire ∧
    (usage.dialed.stream.writer.sealer.refusals = 0 → lost = [])

/-- What holds of a dialed stream in use: accepted data is on its way, less what was given up with the stream; or the
operation at work was given up, and nothing else is left to send. -/
inductive Sound (key : MasterKey) (good : σ → Prop) (header : Bytes) (usage : Usage ρ σ) : Prop
  | underway {content lost : Bytes} (keeps : usage.dialed.Keeps (Floats key good) content)
      (whole : content ++ lost = header ++ usage.accepted) (held : usage.isDropped = false → lost = [])
      (spent : usage.isShut → usage.dialed.Spent)
  | severed (dropped : usage.isDropped) (arrives : usage.Arrives key (header ++ usage.accepted))
      (spent : usage.dialed.Spent)

variable {key : MasterKey} {good : σ → Prop} {header : Bytes} {usage next : Usage ρ σ}

theorem Step.spent (spent : usage.dialed.Spent) (step : Step good usage next) : next.dialed.Spent := by
  cases step with
  | write data => exact spent.pollWrite data
  | flush => exact spent.pollFlush
  | shutdown => exact spent.pollShutdown
  | drop => exact spent.drop
  | background now => exact (spent.pollDeferred now).1
  | sink sink => exact ⟨spent.queued, spent.bare⟩
  | salts salts => exact ⟨spent.queued, spent.bare⟩

theorem Reached.spent {first : Usage ρ σ} (spent : first.dialed.Spent) (reached : Reached good first usage) :
    usage.dialed.Spent := by
  induction reached with
  | first => exact spent
  | step reached step ih => exact step.spent ih

omit [ByteSink σ] in
theorem arrives_of_keeps {content lost : Bytes} (keeps : usage.dialed.Keeps (Floats key good) content) :
    usage.Arrives key (content ++ lost) := by
  obtain ⟨salts, front, kept, underway, -, rfl, lossless⟩ := keeps
  exact ⟨front, kept ++ lost, (List.append_assoc _ _ _).symm, underway.begins lost, lossless⟩

theorem sound_underway (steady : Steady good) {content lost : Bytes} (keeps : usage.dialed.Keeps (Floats key good) content)
    (whole : content ++ lost = header ++ usage.accepted) (held : usage.isDropped = false → lost = [])
    (spent : usage.isShut → usage.dialed.Spent) (step : Step good usage next) : next.Sound key good header := by
  have shares := @shares_floats σ _ key good steady
  cases step with
  | write data here =>
      have still := keeps.pollWrite shares.carries data False.elim
      refine .underway still ?_ (fun _ => rfl) (fun shut => (spent shut).pollWrite data)
      have none := held here
      subst none
      rw [List.append_nil] at whole
      rw [List.append_nil, whole, List.append_assoc]
  | flush =>
      have still := keeps.pollFlush shares.carries False.elim
      exact .underway still whole held (fun shut => (spent shut).pollFlush)
  | shutdown =>
      refine .underway (keeps.pollShutdown shares.carries False.elim) whole held ?_
      intro shut
      rcases Bool.or_eq_true_iff.mp shut with before | now
      · exact (spent before).pollShutdown
      · -- When a shutdown has its turn the flush in the background has not, and finds nothing queued later.
        obtain ⟨salts, front, kept, underway, -⟩ := keeps
        refine Dialed.spent_pollShutdown ⟨underway.tidy.crew, underway.tidy.taken⟩ ?_ (beq_iff_eq.mp now)
        exact fun operation mem => underway.bare operation (List.mem_append_right _ (List.mem_append_right _ mem))
  | drop here =>
      have none := held here
      subst none
      rw [List.append_nil] at whole
      rcases Dialed.drop_floats keeps with ⟨content, lost, same, going⟩ | idle
      · exact .underway going (same.trans whole) (fun alive => by cases alive) (fun shut => (spent shut).drop)
      · -- What was dropped may have been in the middle of a chunk, but nobody sends anything behind it.
        obtain ⟨lost, kept, same, begins, lossless⟩ := @arrives_of_keeps _ _ _ _ _ content [] keeps
        rw [List.append_nil, whole] at same
        rw [wire, ← Dialed.wire_drop] at begins
        rw [← Dialed.sealer_drop] at lossless
        exact .severed rfl ⟨lost, kept, same, begins, lossless⟩ idle
  | background now =>
      exact .underway (keeps.pollDeferred shares now) whole held (fun shut => ((spent shut).pollDeferred now).1)
  | sink sink here =>
      obtain ⟨salts, front, kept, underway, source, same, lossless⟩ := keeps
      obtain ⟨⟨content, flowing, split⟩, bare, -⟩ := underway
      have still : Underway key salts good _ _ _ kept := ⟨⟨content, Writer.flowing_withSink sink flowing, split⟩, bare, here⟩
      refine .underway ⟨salts, front, kept, still, source, same, lossless⟩ whole held ?_
      exact fun shut => ⟨(spent shut).queued, (spent shut).bare⟩
  | salts source =>
      obtain ⟨salts, front, kept, afloat⟩ := keeps
      obtain ⟨later, resalted⟩ := afloat.withSalts source
      refine .underway ⟨later, front, kept, resalted⟩ whole held ?_
      exact fun shut => ⟨(spent shut).queued, (spent shut).bare⟩

theorem sound_severed (dropped : usage.isDropped) (arrives : usage.Arrives key (header ++ usage.accepted))
    (spent : usage.dialed.Spent) (step : Step good usage next) : next.Sound key good header := by
  cases step with
  | write _ held | flush held | shutdown held | drop held => cases dropped.symm.trans held
  | background now =>
      obtain ⟨still, same⟩ := spent.pollDeferred now
      obtain ⟨lost, kept, whole, begins, lossless⟩ := arrives
      rw [wire, ← same] at begins
      refine .severed dropped ⟨lost, kept, whole, begins, fun none => lossless ?_⟩ still
      have before := usage.dialed.refusals_pollDeferred now
      rw [none] at before
      exact Nat.le_zero.mp before
  | sink sink => exact .severed dropped arrives ⟨spent.queued, spent.bare⟩
  | salts salts => exact .severed dropped arrives ⟨spent.queued, spent.bare⟩

theorem Sound.step (steady : Steady good) (sound : usage.Sound key good header) (step : Step good usage next) :
    next.Sound key good header := by
  cases sound with
  | underway keeps whole held spent => exact sound_underway steady keeps whole held spent step
  | severed dropped arrives spent => exact sound_severed dropped arrives spent step

theorem Sound.reached (steady : Steady good) {first : Usage ρ σ} (sound : first.Sound key good header)
    (reached : Reached good first usage) : usage.Sound key good header := by
  induction reached with
  | first => exact sound
  | step reached step ih => exact ih.step steady step

omit [ByteSink σ] in
theorem Sound.arrives (sound : usage.Sound key good header) : usage.Arrives key (header ++ usage.accepted) := by
  cases sound with
  | underway keeps whole held spent =>
      rw [← whole]
      exact arrives_of_keeps keeps
  | severed dropped arrives spent => exact arrives

theorem Sound.quiet (sound : usage.Sound key good header) (shut : usage.isShut) (now : Nat) :
    (usage.dialed.pollDeferred now).2.stream.writer.sink.wire = usage.wire := by
  cases sound with
  | underway keeps whole held spent => exact ((spent shut).pollDeferred now).2
  | severed dropped arrives spent => exact (spent.pollDeferred now).2

omit [ByteSink σ] in
theorem sound_begin (dialer : Dialer) (header : Bytes) (source : ρ) (sink : σ) (now : Nat) (here : good sink) :
    (begin (dialer.establish header source ⟨sink, []⟩ now)).Sound dialer.key good header := by
  have fresh := Writer.flowing_enqueue header (Writer.flowing_fresh dialer.key dialer.salts sink)
  have underway : Underway dialer.key dialer.salts good _ none [] header :=
    ⟨⟨header, fresh, List.append_nil header⟩, List.forall_mem_nil _, here⟩
  refine .underway ⟨dialer.salts, [], header, underway, fun _ => rfl, rfl, fun _ => rfl⟩ rfl (fun _ => rfl) ?_
  intro shut
  cases shut

end Usage

section Delivery

variable {ρ σ : Type} [ByteSink σ]

/-- A dialed stream over a sink that never fails, however it is used, whatever the flush in the background does and
whoever yields the salts: the bytes that the sink has accepted are the beginning of an encoding of the target's address
and the accepted data, but for a front of it that was lost to salts that could not be had; a write that stalls takes none
of its data; and once a shutdown has succeeded the flush in the background adds nothing. -/
theorem Dialer.delivers_in_order (dialer : Dialer) {address : String} {header : Bytes}
    (_ : Dialer.header address = .ok header) {good : σ → Prop} (steady : Steady good) (source : ρ) (sink : σ)
    (here : good sink) (now : Nat) {usage : Usage ρ σ}
    (reached : Usage.Reached good (.begin (dialer.establish header source ⟨sink, []⟩ now)) usage) :
    (∃ lost kept, lost ++ kept = header ++ usage.accepted ∧ Wire.Begins dialer.key kept usage.wire ∧
      (usage.dialed.stream.writer.sealer.refusals = 0 → lost = [])) ∧
      (∀ data reason, (usage.dialed.pollWrite data).1 = .stalled reason →
        ∀ other, usage.dialed.pollWrite other = usage.dialed.pollWrite data) ∧
      (usage.isShut → ∀ later, (usage.dialed.pollDeferred later).2.stream.writer.sink.wire = usage.wire) := by
  have sound := (Usage.sound_begin dialer header source sink now here).reached steady reached
  exact ⟨sound.arrives, fun _ _ stalled => Dialed.pollWrite_stalled stalled, sound.quiet⟩

/-- A byte is written while the sink delays, the flush in the background begins, another source takes over, and the stream
is shut down and dropped. -/
theorem Dialer.delivers_in_order_script :
    let dialer : Dialer := ⟨⟨⟨"aes-128-gcm", "AEAD_AES_128_GCM", .aes128Gcm⟩, []⟩, .random fun _ _ => 7, Dialer.usualWait⟩
    let header : Bytes := [1, 127, 0, 0, 1, 0, 80]
    let sink : Scripted.Sink := .ofScript [.yield, .accept 3, .wait 5] [.yield] [] none
    let first : Usage Unit Scripted.Sink := .begin (dialer.establish header () ⟨sink, []⟩ 0)
    ∃ usage, Usage.Reached Scripted.Sink.IsSteady first usage ∧ usage.isDropped ∧
      ∃ lost kept, lost ++ kept = header ++ usage.accepted ∧ Wire.Begins dialer.key kept usage.wire := by
  intro dialer header sink first
  have target : Dialer.header "127.0.0.1:80" = .ok header := rfl
  have steady : sink.IsSteady := ⟨by decide, by decide, by decide⟩
  have start : Usage.Reached Scripted.Sink.IsSteady first first := .first
  have written := start.step (.write [7] rfl)
  have late := written.step (.background 10)
  have resalted := late.step (.salts (.fixed []))
  have shut := resalted.step (.shutdown rfl)
  have dropped := shut.step (.drop rfl)
  obtain ⟨⟨lost, kept, whole, begins, -⟩, -⟩ :=
    dialer.delivers_in_order target Scripted.Sink.steady_isSteady () sink steady 0 dropped
  exact ⟨_, dropped, rfl, lost, kept, whole, begins⟩

/-- Entropy fails once, when the flush in the background asks for a salt, and the address is lost: a byte that is written
later leaves without it. -/
theorem Dialer.delivers_without_target :
    let dialer : Dialer := ⟨⟨⟨"aes-128-gcm", "AEAD_AES_128_GCM", .aes128Gcm⟩, []⟩,
      .random (fun _ _ => 7) (some "no entropy"), Dialer.usualWait⟩
    let header : Bytes := [1, 127, 0, 0, 1, 0, 80]
    Dialer.header "127.0.0.1:80" = .ok header ∧
      ¬ ∀ usage, Usage.Reached Scripted.Sink.IsSteady
          (.begin (dialer.establish header (Scripted.Source.ofBytes []) ⟨.ofScript [] [] [] none, []⟩ 0)) usage →
        Wire.Begins dialer.key (header ++ usage.accepted) usage.wire := by
  intro dialer header
  have target : Dialer.header "127.0.0.1:80" = .ok header := rfl
  refine ⟨target, fun begins => ?_⟩
  let sink : Scripted.Sink := .ofScript [] [] [] none
  let first := dialer.establish header (Scripted.Source.ofBytes []) (⟨sink, []⟩ : Recorded Scripted.Sink) 0
  have refused : first.stream.writer.Refused (.ofRequest .flush) (.salt (.entropy "no entropy")) :=
    List.mem_singleton.mpr rfl
  have queued := Writer.flowing_enqueue header (Writer.flowing_fresh dialer.key dialer.salts sink)
  have start : Usage.Reached Scripted.Sink.IsSteady (.begin first) (.begin first) := .first
  -- Nothing is left of the header when entropy comes back.
  obtain ⟨resumed, late, fresh, clear⟩ : ∃ resumed : Dialed _ _,
      Usage.Reached Scripted.Sink.IsSteady (.begin first) ⟨resumed, [], false, false⟩ ∧
        resumed.stream.Keeps (Laden dialer.key (.random fun _ _ => 7) Scripted.Sink.IsOpen) [] [] ∧
        resumed.stream.IsClear := by
    have bare := Writer.flowing_refused refused (queued.add .flush) (.random fun _ _ => 7)
    refine ⟨_, (start.step (.background 10)).step (.salts (.random fun _ _ => 7)), ?_, rfl, rfl⟩
    exact ⟨⟨[], bare.transit, rfl⟩, List.forall_mem_nil _, rfl, rfl, rfl, rfl⟩
  have able : (SaltSource.random fun _ _ => 7).IsAble dialer.key := fun attempt => ⟨_, rfl⟩
  have shown : Wire.plaintext dialer.key (resumed.stream.pollWrite [7]).2.writer.sink.wire = [] ++ [7] :=
    Duplex.plaintext_pollWrite Scripted.Sink.behaves_isOpen able fresh clear (by decide)
  have begun : Wire.plaintext dialer.key (resumed.stream.pollWrite [7]).2.writer.sink.wire <+: header ++ _ :=
    (begins _ (late.step (.write [7] rfl))).plaintext_isPrefix
  rw [shown] at begun
  exact absurd (List.cons_prefix_cons.mp begun).1 (by decide)

end Delivery
end SealedTunnel
