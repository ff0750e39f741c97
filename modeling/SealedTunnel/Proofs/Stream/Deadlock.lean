import SealedTunnel.Proofs.Scripted.Sink
import SealedTunnel.Proofs.Stream.Carrying
import SealedTunnel.Proofs.Stream.Readiness
import SealedTunnel.Scripted.Source

/-!
When a stream gets stuck on itself. An accepted write that waits behind a pending flush or shutdown is
carried on before it by every call, so that nobody carries on what it waits for.
-/
namespace SealedTunnel

/-- The accepted write has its turn only when nothing else is pending. -/
structure Orderly {σ : Type} (writer : Writer σ) (accepted : Option Operation) (others : List Operation) : Prop where
  crew : Crew writer.lock (accepted.toList ++ others)
  asked : ∀ operation ∈ accepted.toList ++ others, operation.stage.ticket? ≠ none
  ahead : ∀ operation, accepted = some operation → writer.lock.holder = operation.stage.ticket? → others = []

section Orderly

variable {σ : Type} [ByteSink σ] {writer : Writer σ} {operation : Operation} {others : List Operation}

theorem asked_poll (crew : Crew writer.lock (operation :: others))
    (asked : ∀ other ∈ others, other.stage.ticket? ≠ none) :
    ∀ other ∈ ((writer.poll operation).left operation.request).toList ++ others, other.stage.ticket? ≠ none := by
  intro other mem
  rcases List.mem_append.mp mem with left | mem
  · exact Option.ne_none_iff_exists'.mpr (crew.left_asked (Option.mem_toList.mp left))
  · exact asked other mem

/-- What is left of an operation has its turn only if it was granted the lock at once. -/
theorem Orderly.poll (crew : Crew writer.lock (operation :: others))
    (asked : ∀ other ∈ others, other.stage.ticket? ≠ none)
    (alone : ∀ ticket lock, operation.stage.asks writer.lock = some (ticket, lock) → lock.holder = some ticket →
      others = []) :
    Orderly (writer.poll operation).writer ((writer.poll operation).left operation.request) others where
  crew := crew.poll
  asked := asked_poll crew asked
  ahead := by
    intro later left holds
    cases crew.carried with
    | granted asks _ granted _ step => exact alone _ _ asks granted
    | waits asks _ behind _ step =>
        rw [step] at left holds
        cases left
        exact absurd holds behind

theorem Orderly.first (orderly : Orderly writer (some operation) others) :
    Orderly (writer.poll operation).writer ((writer.poll operation).left operation.request) others := by
  obtain ⟨crew, asked, ahead⟩ := orderly
  refine .poll crew (fun other mem => asked other (List.mem_cons_of_mem _ mem)) ?_
  intro ticket lock asks holds
  obtain ⟨held, has⟩ := Option.ne_none_iff_exists'.mp (asked operation List.mem_cons_self)
  cases asks.symm.trans (Stage.asks_of_ticket? _ has)
  exact ahead operation rfl (holds.trans has.symm)

theorem Orderly.accept (orderly : Orderly writer none others) (data : Bytes) :
    Orderly (writer.poll (.ofRequest (.write data))).writer
      ((writer.poll (.ofRequest (.write data))).left (.write data)) others := by
  obtain ⟨crew, asked, -⟩ := orderly
  refine .poll (crew.add (.write data)) asked ?_
  intro ticket lock asks holds
  -- A new request is granted at once only if nobody has a ticket, and all the others have theirs.
  have requested : writer.lock.request = (ticket, lock) := Option.some.inj asks
  have alone := crew.serves.granted
  rw [requested] at alone
  exact (tickets_eq_nil asked).mp (alone.mp holds)

theorem Orderly.refuse (orderly : Orderly writer none others) {data : Bytes}
    (failed : (writer.poll (.ofRequest (.write data))).result.outcome = .failed) :
    Orderly (writer.poll (.ofRequest (.write data))).writer none others := by
  have after := orderly.accept data
  rwa [Step.left_failed failed] at after

theorem Orderly.slot {kept : Option Operation} (orderly : Orderly writer none (kept.toList ++ others))
    (request : Request) :
    Orderly (writer.poll (kept.getD (.ofRequest request))).writer none
      (((writer.poll (kept.getD (.ofRequest request))).left (kept.getD (.ofRequest request)).request).toList ++
        others) := by
  have crew : Crew writer.lock (kept.toList ++ others) := orderly.crew
  have asked : ∀ operation ∈ kept.toList ++ others, operation.stage.ticket? ≠ none := orderly.asked
  have slot := crew.slot request
  refine ⟨slot.poll, asked_poll slot ?_, fun _ none => by cases none⟩
  exact fun other mem => asked other (List.mem_append_right _ mem)

omit [ByteSink σ] in
theorem Orderly.perm {accepted : Option Operation} {same : List Operation} (orderly : Orderly writer accepted others)
    (perm : others.Perm same) : Orderly writer accepted same := by
  obtain ⟨crew, asked, ahead⟩ := orderly
  refine ⟨crew.perm (perm.append_left _), ?_, ?_⟩
  · exact fun operation mem => asked operation ((perm.append_left _).mem_iff.mpr mem)
  · intro operation kept holds
    have none := ahead operation kept holds
    subst none
    exact perm.nil_eq.symm

theorem carries_orderly :
    Carries False fun (writer : Writer σ) (accepted : Option Operation) (others : List Operation) (_ : Bytes) =>
      Orderly writer accepted others where
  perm := fun orderly same => orderly.perm same
  first := fun orderly _ => orderly.first
  accept := fun data orderly _ => orderly.accept data
  refuse := fun _ _ orderly failed => orderly.refuse failed
  slot := fun request _ orderly _ => orderly.slot request

end Orderly

namespace Duplex

variable {ρ σ : Type}

abbrev IsOrderly (stream : Duplex ρ σ) : Prop := Orderly stream.writer stream.inFlight (stream.others [])

theorem orderly_fresh (reader : Reader ρ) (key : MasterKey) (salts : SaltSource) (sink : σ) :
    (ofHalves reader (Writer.fresh key salts sink)).IsOrderly where
  crew := .none
  asked := List.forall_mem_nil _
  ahead := fun _ none => by cases none

variable [ByteSink σ] {stream : Duplex ρ σ}

/-- What a stream comes to by calls, each of which may be given up when it stalls, while its sink does as
it likes. -/
inductive Reaches (first : Duplex ρ σ) : Duplex ρ σ → Prop
  | start : Reaches first first
  | write {stream : Duplex ρ σ} (data : Bytes) (before : Reaches first stream) :
      Reaches first (stream.pollWrite data).2
  | flush {stream : Duplex ρ σ} (before : Reaches first stream) : Reaches first stream.pollFlush.2
  | shutdown {stream : Duplex ρ σ} (before : Reaches first stream) : Reaches first stream.pollShutdown.2
  | sink {stream : Duplex ρ σ} (sink : σ) (before : Reaches first stream) :
      Reaches first { stream with writer := { stream.writer with sink } }

theorem Reaches.orderly {first : Duplex ρ σ} (orderly : first.IsOrderly) (reached : Reaches first stream) :
    stream.IsOrderly := by
  induction reached with
  | start => exact orderly
  | write data before ih => exact @Keeps.pollWrite _ _ _ _ _ _ [] [] carries_orderly ih data False.elim
  | flush before ih => exact @Keeps.pollFlush _ _ _ _ _ _ [] [] carries_orderly ih False.elim
  | shutdown before ih => exact @Keeps.pollShutdown _ _ _ _ _ _ [] [] carries_orderly ih False.elim
  | sink sink before ih => exact ⟨ih.crew, ih.asked, ih.ahead⟩

def IsClear (stream : Duplex ρ σ) : Prop := stream.pendingFlush = none ∧ stream.pendingShutdown = none

omit [ByteSink σ] in
theorem others_eq_nil (stream : Duplex ρ σ) : stream.others [] = [] ↔ stream.IsClear := by
  simp [others, IsClear]

/-- Behind a pending flush or shutdown, an accepted write waits for ever. -/
theorem pollInFlight_stuck (orderly : stream.IsOrderly) (accepted : stream.inFlight ≠ none)
    (pending : ¬ stream.IsClear) : ∃ ticket, stream.pollInFlight = (.stalled (.turn ticket), stream) := by
  obtain ⟨operation, kept⟩ := Option.ne_none_iff_exists'.mp accepted
  have crew := orderly.crew
  have asked := orderly.asked
  rw [kept, Option.toList_some, List.singleton_append] at crew asked
  obtain ⟨ticket, has⟩ := Option.ne_none_iff_exists'.mp (asked operation List.mem_cons_self)
  refine ⟨ticket, ?_⟩
  -- With something else pending it does not hold the lock, so that it goes on waiting.
  cases crew.carried with
  | granted asks _ holds _ _ =>
      cases asks.symm.trans (Stage.asks_of_ticket? _ has)
      have clear := stream.others_eq_nil.mp (orderly.ahead operation kept (holds.trans has.symm))
      exact absurd clear pending
  | waits asks _ _ idle step =>
      cases asks.symm.trans (Stage.asks_of_ticket? _ has)
      obtain ⟨request, stage⟩ := operation
      cases (Stage.eq_waiting has idle : stage = .waiting ticket)
      unfold pollInFlight
      rw [kept]
      dsimp only
      rw [carry_eq, step, Step.left, ← kept]

section Ready

variable {prompt : σ → Prop}

theorem pollInFlight_ready_iff (prompts : Prompt prompt) (orderly : stream.IsOrderly)
    (ready : prompt stream.writer.sink) :
    stream.pollInFlight.1.isReady ↔ stream.inFlight = none ∨ stream.IsClear := by
  by_cases accepted : stream.inFlight = none
  · unfold pollInFlight
    rw [accepted]
    exact ⟨fun _ => Or.inl rfl, fun _ => rfl⟩
  by_cases clear : stream.IsClear
  · refine ⟨fun _ => Or.inr clear, fun _ => ?_⟩
    obtain ⟨operation, kept⟩ := Option.ne_none_iff_exists'.mp accepted
    have crew := orderly.crew
    have asked := orderly.asked
    rw [kept, stream.others_eq_nil.mpr clear] at crew asked
    obtain ⟨ticket, has⟩ := Option.ne_none_iff_exists'.mp (asked operation List.mem_cons_self)
    have serves := crew.serves
    rw [Option.toList_some, List.singleton_append, tickets_cons _ has] at serves
    unfold pollInFlight
    rw [kept]
    dsimp only
    rw [carry_eq]
    exact (poll_ready_iff prompts ready crew (Stage.asks_of_ticket? _ has)).mpr serves.only
  · obtain ⟨ticket, stuck⟩ := pollInFlight_stuck orderly accepted clear
    rw [stuck]
    constructor
    · intro never
      cases never
    · rintro (none | none)
      · exact absurd none accepted
      · exact absurd none clear

theorem prompt_pollInFlight (prompts : Prompt prompt) (orderly : stream.IsOrderly)
    (ready : prompt stream.writer.sink) : prompt stream.pollInFlight.2.writer.sink := by
  unfold pollInFlight
  cases kept : stream.inFlight with
  | none => exact ready
  | some operation =>
      have crew := orderly.crew
      rw [kept] at crew
      dsimp only
      rw [carry_eq]
      exact poll_keeps_prompt prompts crew ready

omit [ByteSink σ] in
def HasTurn (stream : Duplex ρ σ) (kept : Option Operation) : Prop :=
  ∃ operation, kept = some operation ∧ stream.writer.lock.holder = operation.stage.ticket?

/-- When no write is in the way, the other calls find the stream as it was, or all clear. -/
theorem pollInFlight_ok {next : Duplex ρ σ} (prompts : Prompt prompt) (orderly : stream.IsOrderly)
    (ready : prompt stream.writer.sink) (done : stream.pollInFlight = (.ready (.ok ()), next)) :
    next.IsOrderly ∧ next.inFlight = none ∧ prompt next.writer.sink ∧ (next = stream ∨ next.IsClear ∧ stream.IsClear) := by
  have after : stream.pollInFlight.2.IsOrderly := @Keeps.pollInFlight _ _ _ _ _ _ [] [] carries_orderly orderly False.elim
  have clear := inFlight_pollInFlight stream
  have prompt := prompt_pollInFlight prompts orderly ready
  have pending := pending_pollInFlight stream
  have free := (pollInFlight_ready_iff prompts orderly ready).mp (by rw [done]; rfl)
  rw [done] at after clear prompt pending
  refine ⟨after, clear rfl, prompt, ?_⟩
  rcases free with none | idle
  · left
    unfold pollInFlight at done
    rw [none] at done
    cases done
    rfl
  · exact Or.inr ⟨⟨pending.1.trans idle.1, pending.2.trans idle.2⟩, idle⟩

theorem pollInFlight_failed {next : Duplex ρ σ} {error : IoError} (prompts : Prompt prompt)
    (orderly : stream.IsOrderly) (ready : prompt stream.writer.sink)
    (failed : stream.pollInFlight = (.ready (.error error), next)) : stream.IsClear := by
  have free := (pollInFlight_ready_iff prompts orderly ready).mp (by rw [failed]; rfl)
  rcases free with none | clear
  · have accepted := (pollInFlight_error failed).2
    rw [none] at accepted
    cases accepted
  · exact clear

theorem pollWrite_ready_iff (stream : Duplex ρ σ) (data : Bytes) :
    (stream.pollWrite data).1.isReady ↔ stream.pollInFlight.1.isReady := by
  unfold pollWrite
  generalize stream.pollInFlight = before
  obtain ⟨(error | done) | reason, next⟩ := before
  · exact Iff.rfl
  · refine ⟨fun _ => rfl, fun _ => ?_⟩
    dsimp only
    split
    · rfl
    · split <;> rfl
  · exact Iff.rfl

theorem Slot.isReady_poll (slot : Slot) (prompts : Prompt prompt) (orderly : stream.IsOrderly)
    (ready : prompt stream.writer.sink) :
    (slot.poll stream).1.isReady ↔ (stream.inFlight = none ∨ stream.IsClear) ∧
      (slot.beside stream = none ∨ stream.HasTurn (slot.kept stream)) := by
  have none_beside : ∀ {other : Duplex ρ σ}, other.IsClear → slot.beside other = none := by
    intro other clear
    cases slot with
    | flush => exact clear.2
    | shutdown => exact clear.1
  rw [← pollInFlight_ready_iff prompts orderly ready]
  have failed := fun next error => @pollInFlight_failed _ _ _ _ _ next error prompts orderly ready
  have after := fun next => @pollInFlight_ok _ _ _ _ _ next prompts orderly ready
  rw [poll_eq]
  generalize stream.pollInFlight = before at after failed
  obtain ⟨(error | done) | reason, next⟩ := before
  · exact ⟨fun _ => ⟨rfl, Or.inl (none_beside (failed next error rfl))⟩, fun _ => rfl⟩
  · obtain ⟨⟨crew, asked, -⟩, none, prompt, same⟩ := after next rfl
    rw [none] at crew asked
    have turned := slot.others_perm next []
    dsimp only
    refine (slot_ready_iff prompts prompt slot.request (crew.perm turned) ?_).trans ?_
    · exact fun operation mem => asked operation (turned.mem_iff.mpr mem)
    rw [List.append_nil, Option.toList_eq_nil_iff]
    rcases same with rfl | ⟨nextClear, clear⟩
    · exact ⟨fun slot => ⟨rfl, slot⟩, And.right⟩
    · exact ⟨fun _ => ⟨rfl, Or.inl (none_beside clear)⟩, fun _ => Or.inl (none_beside nextClear)⟩
  · constructor
    · intro never
      cases never
    · rintro ⟨never, _⟩
      cases never

omit [ByteSink σ] in
theorem not_both_turns (orderly : stream.IsOrderly) (flush : stream.HasTurn stream.pendingFlush)
    (shutdown : stream.HasTurn stream.pendingShutdown) : False := by
  obtain ⟨first, keptFirst, holdsFirst⟩ := flush
  obtain ⟨second, keptSecond, holdsSecond⟩ := shutdown
  have distinct := orderly.crew.serves.distinct
  have asked := orderly.asked
  rw [others, keptFirst, keptSecond, List.append_nil] at distinct asked
  obtain ⟨ticket, has⟩ := Option.ne_none_iff_exists'.mp (asked first (by simp))
  have shared : second.stage.ticket? = some ticket := holdsSecond.symm.trans (holdsFirst.trans has)
  rw [tickets, List.filterMap_append, Option.toList_some, Option.toList_some, List.singleton_append,
    List.filterMap_cons, has, List.filterMap_cons, shared] at distinct
  have repeated := (List.nodup_append.mp distinct).2.1
  exact (List.nodup_cons.mp repeated).1 List.mem_cons_self

end Ready

/-- When the calls of a stream over a sink that is ready from now on get anywhere. An accepted write is
in the way of everything while a flush or shutdown is pending that was given up before it, and then nothing
changes any more; otherwise a flush and a shutdown are in each other's way. -/
theorem ready_iff (reader : Reader ρ) (key : MasterKey) (salts : SaltSource) (sink : σ)
    (reached : Reaches (ofHalves reader (Writer.fresh key salts sink)) stream)
    (ready : AlwaysReady stream.writer.sink) :
    (∀ data, (stream.pollWrite data).1.isReady ↔ stream.inFlight = none ∨ stream.IsClear) ∧
      (stream.pollFlush.1.isReady ↔ (stream.inFlight = none ∨ stream.IsClear) ∧
        (stream.pendingShutdown = none ∨ stream.HasTurn stream.pendingFlush)) ∧
      (stream.pollShutdown.1.isReady ↔ (stream.inFlight = none ∨ stream.IsClear) ∧
        (stream.pendingFlush = none ∨ stream.HasTurn stream.pendingShutdown)) ∧
      ((∀ data, (stream.pollWrite data).1.isReady) ∧ stream.pollFlush.1.isReady ∧ stream.pollShutdown.1.isReady ↔
        stream.IsClear) ∧
      (stream.inFlight ≠ none → ¬ stream.IsClear →
        (∀ data, (stream.pollWrite data).2 = stream) ∧ stream.pollFlush.2 = stream ∧ stream.pollShutdown.2 = stream) := by
  obtain ⟨prompt, prompts, ready⟩ := ready
  have orderly := reached.orderly (orderly_fresh reader key salts sink)
  have write := fun data => (pollWrite_ready_iff stream data).trans
    (pollInFlight_ready_iff prompts orderly ready)
  have flush : stream.pollFlush.1.isReady ↔ (stream.inFlight = none ∨ stream.IsClear) ∧
      (stream.pendingShutdown = none ∨ stream.HasTurn stream.pendingFlush) :=
    Slot.flush.isReady_poll prompts orderly ready
  have shutdown : stream.pollShutdown.1.isReady ↔ (stream.inFlight = none ∨ stream.IsClear) ∧
      (stream.pendingFlush = none ∨ stream.HasTurn stream.pendingShutdown) :=
    Slot.shutdown.isReady_poll prompts orderly ready
  refine ⟨write, flush, shutdown, ?_, ?_⟩
  · constructor
    · rintro ⟨-, flushed, shut⟩
      rcases (flush.mp flushed).2 with noShutdown | flushTurn
      · rcases (shutdown.mp shut).2 with noFlush | ⟨_, kept, _⟩
        · exact ⟨noFlush, noShutdown⟩
        · rw [noShutdown] at kept
          cases kept
      · rcases (shutdown.mp shut).2 with noFlush | shutdownTurn
        · obtain ⟨_, kept, _⟩ := flushTurn
          rw [noFlush] at kept
          cases kept
        · exact absurd shutdownTurn (not_both_turns orderly flushTurn)
    · intro clear
      exact ⟨fun data => (write data).mpr (Or.inr clear), flush.mpr ⟨Or.inr clear, Or.inl clear.2⟩,
        shutdown.mpr ⟨Or.inr clear, Or.inl clear.1⟩⟩
  · intro accepted pending
    obtain ⟨ticket, stuck⟩ := pollInFlight_stuck orderly accepted pending
    refine ⟨fun data => ?_, ?_, ?_⟩
    · rw [pollWrite, stuck]
    · rw [pollFlush, stuck]
    · rw [pollShutdown, stuck]

def hesitant : Duplex Scripted.Source Scripted.Sink :=
  let key : MasterKey := ⟨⟨"aes-128-gcm", "AEAD_AES_128_GCM", .aes128Gcm⟩, []⟩
  ofHalves (Reader.fresh key (.ofBytes [])) (Writer.fresh key (.fixed []) (.ofScript [] [.yield] [] none))

/-- A flush that stalled once lets writes be accepted, can be finished, and is in the way of a shutdown. -/
theorem ready_hesitant :
    Reaches hesitant hesitant.pollFlush.2 ∧ AlwaysReady hesitant.pollFlush.2.writer.sink ∧
      (∀ data, (hesitant.pollFlush.2.pollWrite data).1.isReady) ∧ hesitant.pollFlush.2.pollFlush.1.isReady ∧
      ¬ hesitant.pollFlush.2.pollShutdown.1.isReady := by
  have reached : Reaches hesitant hesitant.pollFlush.2 := .flush .start
  have ready : AlwaysReady hesitant.pollFlush.2.writer.sink := Scripted.Sink.alwaysReady ⟨rfl, rfl, rfl, rfl⟩
  obtain ⟨write, flush, shutdown, -, -⟩ := ready_iff _ _ _ _ reached ready
  refine ⟨reached, ready, fun data => (write data).mpr (Or.inl rfl), flush.mpr ⟨Or.inl rfl, Or.inl rfl⟩, ?_⟩
  intro shut
  rcases (shutdown.mp shut).2 with none | ⟨_, none, _⟩
  · cases none
  · cases none

/-- After a flush that stalled and a write that was accepted, nothing gets anywhere, however ready the
sink is. -/
theorem stuck_hesitant :
    let stream := (hesitant.pollFlush.2.pollWrite [0xaa, 0xbb]).2
    Reaches hesitant stream ∧ AlwaysReady stream.writer.sink ∧ ¬ (stream.pollWrite [0xcc]).1.isReady ∧
      ¬ stream.pollFlush.1.isReady ∧ ¬ stream.pollShutdown.1.isReady := by
  exact ⟨.write _ (.flush .start), Scripted.Sink.alwaysReady ⟨rfl, rfl, rfl, rfl⟩, Bool.false_ne_true,
    Bool.false_ne_true, Bool.false_ne_true⟩

end Duplex
end SealedTunnel
