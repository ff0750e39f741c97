import SealedTunnel.Proofs.Stream.Behaviour

/-! Over a sink that is always ready, an operation is finished at once exactly if it is its turn. -/
namespace SealedTunnel

theorem tickets_eq_nil {operations : List Operation} (asked : ∀ operation ∈ operations, operation.stage.ticket? ≠ none) :
    tickets operations = [] ↔ operations = [] := by
  cases operations with
  | nil => exact ⟨fun _ => rfl, fun _ => rfl⟩
  | cons operation others =>
      obtain ⟨ticket, has⟩ := Option.ne_none_iff_exists'.mp (asked operation List.mem_cons_self)
      rw [tickets_cons others has]
      exact iff_of_false (List.cons_ne_nil _ _) (List.cons_ne_nil _ _)

variable {σ : Type} [ByteSink σ] {prompt : σ → Prop} {writer : Writer σ} {kept : Option Operation}
  {others : List Operation}

theorem poll_ready_iff (prompts : Prompt prompt) (ready : prompt writer.sink) {operation : Operation}
    (crew : Crew writer.lock (operation :: others)) {ticket : Ticket} {asked : Lock}
    (asks : operation.stage.asks writer.lock = some (ticket, asked)) :
    (writer.poll operation).result.isReady ↔ asked.holder = some ticket := by
  cases crew.carried with
  | granted same _ holds _ step =>
      cases asks.symm.trans same
      rw [step]
      have behaves := Writer.turn_behaves { writer with lock := asked } prompts (by decide) operation.request ticket
        operation.stage (Or.inl (by decide)) ready
      exact ⟨fun _ => holds, fun _ => (Poll.isReady_iff _).mpr behaves.2⟩
  | waits same _ behind _ step =>
      cases asks.symm.trans same
      rw [step]
      constructor
      · intro never
        cases never
      · exact fun holds => absurd holds behind

theorem poll_keeps_prompt (prompts : Prompt prompt) {operation : Operation}
    (crew : Crew writer.lock (operation :: others)) (ready : prompt writer.sink) : prompt (writer.poll operation).writer.sink := by
  cases crew.carried with
  | @granted ticket asked asks _ _ _ step =>
      rw [step]
      exact (Writer.turn_behaves { writer with lock := asked } prompts (by decide) operation.request ticket
        operation.stage (Or.inl (by decide)) ready).1
  | waits _ _ _ _ step =>
      rw [step]
      exact ready

theorem Crew.finished_iff_turn (prompts : Prompt prompt) (ready : prompt writer.sink) {operation : Operation}
    (crew : Crew writer.lock (operation :: others)) :
    (writer.poll operation).result.isReady ↔ writer.lock.holder = operation.stage.ticket? := by
  obtain ⟨ticket, asked, asks⟩ := crew.asks
  refine (poll_ready_iff prompts ready crew asks).trans ?_
  obtain ⟨request, stage⟩ := operation
  cases stage with
  | unstarted =>
      have requested : writer.lock.request = (ticket, asked) := Option.some.inj asks
      have granted := crew.serves.granted
      rw [requested] at granted
      exact granted.trans crew.serves.holder_eq_none.symm
  | waiting | sending | finishing =>
      cases asks
      exact Iff.rfl
  | finished => cases asks

omit [ByteSink σ] in
theorem Crew.turn_alone {lock : Lock} {operation : Operation} (crew : Crew lock (operation :: others))
    (alone : tickets others = []) : lock.holder = operation.stage.ticket? := by
  have serves := crew.serves
  cases has : operation.stage.ticket? with
  | none =>
      refine serves.holder_eq_none.mpr ?_
      rw [tickets, List.filterMap_cons, has]
      exact alone
  | some ticket =>
      rw [tickets_cons others has, alone] at serves
      exact serves.only

/-- An operation that is kept, or else a new one, is finished at once if it is alone or has its turn. -/
theorem slot_ready_iff (prompts : Prompt prompt) (ready : prompt writer.sink) (request : Request)
    (crew : Crew writer.lock (kept.toList ++ others))
    (asked : ∀ operation ∈ kept.toList ++ others, operation.stage.ticket? ≠ none) :
    (writer.poll (kept.getD (.ofRequest request))).result.isReady ↔
      others = [] ∨ ∃ operation, kept = some operation ∧ writer.lock.holder = operation.stage.ticket? := by
  have slot := crew.slot request
  cases kept with
  | none =>
      have granted := crew.serves.granted.trans (tickets_eq_nil asked)
      refine (poll_ready_iff prompts ready slot rfl).trans (granted.trans ?_)
      constructor
      · exact Or.inl
      · rintro (alone | ⟨_, kept, _⟩)
        · exact alone
        · cases kept
  | some operation =>
      obtain ⟨ticket, has⟩ := Option.ne_none_iff_exists'.mp (asked operation List.mem_cons_self)
      refine (poll_ready_iff prompts ready slot (Stage.asks_of_ticket? _ has)).trans ?_
      constructor
      · exact fun holds => Or.inr ⟨operation, rfl, holds.trans has.symm⟩
      · rintro (rfl | ⟨_, same, holds⟩)
        · have serves := crew.serves
          rw [List.append_nil, Option.toList_some, tickets_cons [] has] at serves
          exact serves.only
        · cases same
          exact holds.trans has

end SealedTunnel
