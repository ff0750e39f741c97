import SealedTunnel.Proofs.Stream.RoundTrip

/-!
What an operation leaves behind that can have no salt. Nothing is sealed and the sink is not touched, but what was
queued is gone: it was taken before the salt was asked for, and no later operation sends it.
-/
namespace SealedTunnel

section Refusals

variable {fault : Fault}

theorem Noted.unrefused_bind {α β : Type} {first : ExceptT Fault Noted α} {next : α → ExceptT Fault Noted β}
    (before : .drawn (.error fault) ∉ first.run.notes) (after : ∀ value, .drawn (.error fault) ∉ (next value).run.notes) :
    .drawn (.error fault) ∉ (first >>= next).run.notes := by
  rw [ExceptT.run_bind, notes_bind, List.mem_append, not_or]
  refine ⟨before, ?_⟩
  cases first.run.value with
  | error other => exact List.not_mem_nil
  | ok value => exact after value

theorem Wire.unrefused_chunksNoted (session : Aead) (nonce : Nonce) (payloads : List Bytes) :
    .drawn (.error fault) ∉ (chunksNoted session nonce payloads).run.notes := by
  have sealing : ∀ nonce text, .drawn (.error fault) ∉ (session.encryptNoted nonce text).run.notes := by
    intro nonce text refused
    cases List.mem_singleton.mp refused
  induction payloads generalizing nonce with
  | nil => exact List.not_mem_nil
  | cons payload rest ih =>
      have chunk : .drawn (.error fault) ∉ (chunkNoted session nonce payload).run.notes :=
        Noted.unrefused_bind (sealing nonce _) fun _ =>
          Noted.unrefused_bind (sealing nonce.next payload) fun _ => List.not_mem_nil
      exact Noted.unrefused_bind chunk fun sealed =>
        Noted.unrefused_bind (ih sealed.2) fun _ => List.not_mem_nil

/-- A salt is refused while there is no session, and then the first that is asked for. -/
theorem Sealer.unbegun_of_refused {sealer : Sealer} {data : Bytes}
    (refused : .drawn (.error fault) ∈ (sealer.sealDataNoted data).notes) :
    sealer.session = none ∧ sealer.salts.draw sealer.attempts sealer.key.saltSize = .error fault := by
  have sealing : ∀ session : Aead, ∀ nonce,
      .drawn (.error fault) ∉ (Wire.chunksNoted session nonce (data.pieces Wire.longestPayload)).run.notes :=
    fun session nonce => Wire.unrefused_chunksNoted session nonce _
  unfold sealDataNoted beginNoted at refused
  cases begun : sealer.session with
  | some session =>
      simp only [begun, Noted.notes_bind, Noted.value_pure, Noted.notes_pure, List.nil_append, List.mem_append] at refused
      rcases refused with refused | refused
      · exact absurd refused (sealing session _)
      · split at refused <;> cases refused
  | none =>
      refine ⟨rfl, ?_⟩
      cases drawn : sealer.salts.draw sealer.attempts sealer.key.saltSize with
      | error other =>
          simp only [begun, drawn, Noted.notes_bind, Noted.value_bind, Noted.value_pure, Noted.notes_pure,
            Noted.notes_write, List.append_nil, List.mem_singleton] at refused
          cases refused
          rfl
      | ok salt =>
          obtain ⟨session, ofSalt⟩ := sealer.key.session_ok salt
          simp only [begun, drawn, ofSalt, Noted.notes_bind, Noted.value_bind, Noted.value_pure, Noted.notes_pure,
            Noted.notes_write, List.append_nil, List.singleton_append, List.mem_cons, List.mem_append] at refused
          rcases refused with refused | refused | refused
          · cases refused
          · exact absurd refused (sealing session _)
          · split at refused <;> cases refused

end Refusals

namespace Writer

variable {σ : Type} [ByteSink σ] {writer : Writer σ} {operation : Operation} {fault : Fault}

def Refused (writer : Writer σ) (operation : Operation) (fault : Fault) : Prop :=
  .drawn (.error fault) ∈ (writer.pollNoted operation).notes

theorem unrefused_sendNoted (request : Request) (ticket : Ticket) (rest : Bytes) :
    .drawn (.error fault) ∉ (writer.sendNoted request ticket rest).notes := by
  intro refused
  unfold sendNoted at refused
  split at refused
  · cases refused
  · rw [Noted.notes_bind] at refused
    cases List.mem_singleton.mp refused
  · cases refused

theorem start_refused {request : Request} {ticket : Ticket}
    (refused : .drawn (.error fault) ∈ (writer.startNoted request ticket).notes) :
    writer.sealer.session = none ∧ writer.start request ticket =
      ⟨.ready (.error (.ofFault fault)), ⟨[], writer.lock.release,
        { writer.sealer with attempts := writer.sealer.attempts + 1 }, writer.sink⟩, .finished⟩ := by
  unfold startNoted at refused
  unfold start
  dsimp only at refused ⊢
  split at refused
  · cases refused
  · rename_i full
    rw [Noted.notes_bind, List.mem_append] at refused
    have asked : .drawn (.error fault) ∈ (writer.sealer.sealDataNoted (writer.queued ++ request.data)).notes := by
      rcases refused with refused | refused
      · exact refused
      · split at refused
        · cases refused
        · exact absurd refused (unrefused_sendNoted request ticket _)
    obtain ⟨unbegun, undrawn⟩ := Sealer.unbegun_of_refused asked
    rw [if_neg full, Sealer.sealData_unsalted unbegun undrawn]
    exact ⟨unbegun, rfl⟩

theorem poll_refused (refused : writer.Refused operation fault) :
    writer.sealer.session = none ∧ operation.stage.isActive = false ∧ ∃ lock, writer.poll operation =
      ⟨.ready (.error (.ofFault fault)),
        ⟨[], lock, { writer.sealer with attempts := writer.sealer.attempts + 1 }, writer.sink⟩, .finished⟩ := by
  obtain ⟨request, stage⟩ := operation
  have starts : ∀ {ticket : Ticket} {asked : Lock}, stage.asks writer.lock = some (ticket, asked) →
      stage.isActive = false → asked.holder = some ticket ∧
        .drawn (.error fault) ∈ ({ writer with lock := asked }.turnNoted request ticket stage).notes := by
    intro ticket asked asks idle
    by_cases holds : asked.holder = some ticket
    · have granted : writer.pollNoted ⟨request, stage⟩ = _ := pollNoted_granted asks holds
      rw [Refused, granted] at refused
      exact ⟨holds, refused⟩
    · have waits : (writer.pollNoted ⟨request, stage⟩).notes = [] := notes_pollNoted_waits asks idle holds
      rw [Refused, waits] at refused
      cases refused
  cases stage with
  | unstarted =>
      obtain ⟨holds, refused⟩ := starts rfl rfl
      obtain ⟨unbegun, started⟩ := start_refused refused
      exact ⟨unbegun, rfl, _, (poll_granted rfl holds).trans started⟩
  | waiting ticket =>
      obtain ⟨holds, refused⟩ := starts rfl rfl
      obtain ⟨unbegun, started⟩ := start_refused refused
      exact ⟨unbegun, rfl, _, (poll_granted rfl holds).trans started⟩
  | sending => exact absurd refused (unrefused_sendNoted _ _ _)
  | finishing | finished => cases refused

omit [ByteSink σ] in
def withSalts (writer : Writer σ) (salts : SaltSource) : Writer σ := { writer with sealer := { writer.sealer with salts } }

variable {key : MasterKey} {salts : SaltSource} {content : Bytes}

/-- What is left of a writer whose only operation is refused a salt is a writer that has been given nothing yet. -/
theorem flowing_refused {writer : Writer (Recorded σ)} (refused : writer.Refused operation fault)
    (flowing : Flowing key salts writer [operation] content) (source : SaltSource) :
    Flowing key source ((writer.poll operation).writer.withSalts source) [] [] := by
  obtain ⟨unbegun, idle, lock, ended⟩ := poll_refused refused
  have crew := flowing.tidy.crew.poll
  rw [ended] at crew ⊢
  obtain ⟨payloads, wrote, -⟩ := flowing.flow_idle (List.forall_mem_singleton.mpr idle)
  rw [List.append_nil] at wrote
  cases wrote with
  | begun _ _ _ _ begun => cases unbegun.symm.trans begun
  | nothing ofKey _ _ nonce _ empty =>
      refine ⟨⟨crew, List.forall_mem_nil _⟩, [], ⟨[], ?_, rfl⟩, List.forall_mem_nil _, fun _ => rfl⟩
      exact .nothing ofKey rfl unbegun nonce rfl ((List.append_nil _).trans empty)

/-- An operation that is refused a salt fails with that. The session, the nonce and the wire are as before, but nothing is
queued any more. With any source of salts, the operations that succeed later send what is queued or written from then on:
what had been queued before is never sent. -/
theorem unsalted_drops_queue {writer : Writer (Recorded σ)} (refused : writer.Refused operation fault) :
    let step := writer.poll operation
    step.result = .ready (.error (.ofFault fault)) ∧ step.stage = .finished ∧
      step.writer.sealer.session = writer.sealer.session ∧ step.writer.sealer.nonce = writer.sealer.nonce ∧
      step.writer.sink = writer.sink ∧ step.writer.queued = [] ∧
      ∀ key salts content, Flowing key salts writer [operation] content → ∀ source calls last,
        Performs (step.writer.withSalts source) calls last →
          ∃ payloads, last.sealer.Wrote key source payloads last.sink.wire ∧
            payloads.flatten ++ last.queued = calls.flatMap Call.data := by
  intro step
  obtain ⟨-, -, lock, ended⟩ := poll_refused refused
  have polled : step = _ := ended
  have resumed : ∀ key salts content, Flowing key salts writer [operation] content → ∀ source,
      Flowing key source (step.writer.withSalts source) [] [] := fun key salts content => flowing_refused refused
  refine ⟨congrArg Step.result polled, congrArg Step.stage polled, congrArg (·.writer.sealer.session) polled,
    congrArg (·.writer.sealer.nonce) polled, congrArg (·.writer.sink) polled, congrArg (·.writer.queued) polled, ?_⟩
  intro key salts content flowing source calls last performs
  obtain ⟨payloads, wrote, same⟩ :=
    (performs_flowing performs (resumed key salts content flowing source)).flow_idle (List.forall_mem_nil _)
  rw [List.append_nil] at wrote
  exact ⟨payloads, wrote, same⟩

theorem unsalted_drops_queue_script :
    let key : MasterKey := ⟨⟨"aes-128-gcm", "AEAD_AES_128_GCM", .aes128Gcm⟩, []⟩
    let source : SaltSource := .random fun _ _ => 7
    let writer := (Writer.fresh key (.fixed []) (⟨.ofScript [] [] [] none, []⟩ : Recorded Scripted.Sink)).enqueue [1, 2]
    let step := writer.poll (.ofRequest .flush)
    step.writer.queued = [] ∧ ∃ last, Performs (step.writer.withSalts source) [.perform (.write [3, 4])] last ∧
      ∃ payloads, last.sealer.Wrote key source payloads last.sink.wire ∧ payloads.flatten ++ last.queued = [3, 4] := by
  intro key source writer step
  have refused : writer.Refused (.ofRequest .flush) (.salt (.fixedLength 0 16)) := List.mem_singleton.mpr rfl
  have flowing := (flowing_enqueue [1, 2] (flowing_fresh key (.fixed []) (Scripted.Sink.ofScript [] [] [] none))).add .flush
  have able : source.IsAble key := fun attempt => ⟨_, rfl⟩
  obtain ⟨-, -, -, -, -, dropped, later⟩ := unsalted_drops_queue refused
  have resumed : Flowing key source (step.writer.withSalts source) [] [] := flowing_refused refused flowing source
  obtain ⟨last, performs⟩ :=
    performs_all Scripted.Sink.behaves_isOpen able [.perform (.write [3, 4])] resumed ⟨rfl, rfl, rfl, rfl⟩
  exact ⟨dropped, last, performs, later key (.fixed []) _ flowing source _ last performs⟩

/-- It is not so that whoever is refused a salt leaves what was queued. -/
theorem unsalted_queue_lost :
    ¬ ∀ (writer : Writer (Recorded Scripted.Sink)) operation fault, writer.Refused operation fault →
      (writer.poll operation).writer.queued = writer.queued ∧
        (writer.poll operation).writer.sealer.session = writer.sealer.session ∧
        (writer.poll operation).writer.sealer.nonce = writer.sealer.nonce := by
  intro kept
  have refused : ((fresh ⟨⟨"aes-128-gcm", "AEAD_AES_128_GCM", .aes128Gcm⟩, []⟩ (.fixed [])
      (⟨.ofScript [] [] [] none, []⟩ : Recorded Scripted.Sink)).enqueue [1, 2]).Refused (.ofRequest .flush)
      (.salt (.fixedLength 0 16)) := List.mem_singleton.mpr rfl
  obtain ⟨same, -⟩ := kept _ _ _ refused
  cases same

end Writer
end SealedTunnel
