import SealedTunnel.Dialer
import SealedTunnel.Proofs.Stream.Floating

namespace SealedTunnel

namespace Deferred

def operations : Deferred → List Operation
  | waiting _ => []
  | flushing operation => [operation]
  | finished => []

def turn? (deferred : Deferred) (now : Nat) : Option Operation :=
  match deferred with
  | waiting due => if due ≤ now then some (.ofRequest .flush) else none
  | flushing operation => some operation
  | finished => none

theorem turn?_cases {deferred : Deferred} {now : Nat} {operation : Operation}
    (turn : deferred.turn? now = some operation) :
    (∃ due, deferred = waiting due ∧ due ≤ now ∧ operation = .ofRequest .flush) ∨ deferred = flushing operation := by
  unfold turn? at turn
  cases deferred with
  | waiting due =>
      dsimp only at turn
      split at turn
      · rename_i reached
        cases turn
        exact Or.inl ⟨due, rfl, reached, rfl⟩
      · cases turn
  | flushing kept =>
      cases turn
      exact Or.inr rfl
  | finished => cases turn

theorem operations_cancel (deferred : Deferred) : deferred.cancel.operations = deferred.operations := by
  cases deferred <;> rfl

end Deferred

def Duplex.operations {ρ σ : Type} (stream : Duplex ρ σ) : List Operation :=
  stream.inFlight.toList ++ (stream.pendingFlush.toList ++ stream.pendingShutdown.toList)

theorem Duplex.perm_others {ρ σ : Type} (stream : Duplex ρ σ) (behind : List Operation) :
    (behind ++ stream.others []).Perm (stream.others behind) := by
  refine List.perm_append_comm.trans (.of_eq ?_)
  simp only [others, List.append_assoc, List.append_nil]

namespace Dialed

variable {ρ σ : Type}

def withSalts (dialed : Dialed ρ σ) (salts : SaltSource) : Dialed ρ σ :=
  { dialed with stream.writer := dialed.stream.writer.withSalts salts }

def Keeps (invariant : Writer σ → Option Operation → List Operation → Bytes → Prop) (dialed : Dialed ρ σ)
    (total : Bytes) : Prop :=
  dialed.stream.Keeps invariant dialed.deferred.operations total

section Calls

variable [ByteSink σ] {strict : Prop} {invariant : Writer σ → Option Operation → List Operation → Bytes → Prop}
  {dialed : Dialed ρ σ} {total : Bytes} {now : Nat}

theorem Keeps.pollWrite (carries : Carries strict invariant) (keeps : dialed.Keeps invariant total) (data : Bytes)
    (unfailed : strict → (dialed.pollWrite data).1.outcome ≠ .failed) :
    (dialed.pollWrite data).2.Keeps invariant (total ++ taken data (dialed.pollWrite data).1) :=
  Duplex.Keeps.pollWrite carries keeps data unfailed

theorem pollWrite_stalled {data : Bytes} {reason : Stall} (stalled : (dialed.pollWrite data).1 = .stalled reason)
    (other : Bytes) : dialed.pollWrite other = dialed.pollWrite data := by
  unfold Dialed.pollWrite
  rw [Duplex.pollWrite_stalled stalled other]

theorem Keeps.pollFlush (carries : Carries strict invariant) (keeps : dialed.Keeps invariant total)
    (unfailed : strict → dialed.pollFlush.1.outcome ≠ .failed) : dialed.pollFlush.2.Keeps invariant total :=
  Duplex.Keeps.pollFlush carries keeps unfailed

theorem Keeps.pollShutdown (carries : Carries strict invariant) (keeps : dialed.Keeps invariant total)
    (unfailed : strict → dialed.pollShutdown.1.outcome ≠ .failed) : dialed.pollShutdown.2.Keeps invariant total := by
  have after := Duplex.Keeps.pollShutdown carries keeps unfailed
  rw [← Deferred.operations_cancel] at after
  exact after

theorem pollDeferred_idle (idle : dialed.deferred.turn? now = none) : (dialed.pollDeferred now).2 = dialed := by
  unfold Dialed.pollDeferred
  unfold Deferred.turn? at idle
  cases begun : dialed.deferred with
  | waiting due =>
      rw [begun] at idle
      dsimp only at idle ⊢
      split
      · rename_i reached
        rw [if_pos reached] at idle
        cases idle
      · rfl
  | flushing operation =>
      rw [begun] at idle
      cases idle
  | finished => rfl

theorem pollDeferred_turn {operation : Operation} (turn : dialed.deferred.turn? now = some operation) :
    dialed.pollDeferred now = dialed.carryFlush operation := by
  unfold Dialed.pollDeferred
  rcases Deferred.turn?_cases turn with ⟨due, waits, reached, rfl⟩ | flushes
  · rw [waits]
    exact if_pos reached
  · rw [flushes]

theorem stream_carryFlush (dialed : Dialed ρ σ) (operation : Operation) : (dialed.carryFlush operation).2.stream =
    { dialed.stream with writer := (dialed.stream.writer.poll operation).writer } := by
  unfold Dialed.carryFlush
  dsimp only
  split <;> rfl

theorem Keeps.carryFlush (carries : Carries strict invariant) {operation : Operation}
    (after : invariant (dialed.stream.writer.poll operation).writer dialed.stream.inFlight
      (((dialed.stream.writer.poll operation).left operation.request).toList ++ dialed.stream.others []) total) :
    (dialed.carryFlush operation).2.Keeps invariant total := by
  unfold Dialed.carryFlush
  unfold Step.left at after
  dsimp only
  cases result : (dialed.stream.writer.poll operation).result with
  | stalled reason =>
      rw [result] at after
      exact carries.perm after (dialed.stream.perm_others _)
  | ready answer =>
      rw [result] at after
      exact after

/-- The flush in the background is one more operation, which is carried on when it has its turn. -/
theorem Keeps.background (carries : Carries strict invariant) (keeps : dialed.Keeps invariant total)
    (begins : dialed.stream.Keeps invariant [] total →
      invariant dialed.stream.writer dialed.stream.inFlight (.ofRequest .flush :: dialed.stream.others []) total)
    (turn : ∀ operation, dialed.deferred.turn? now = some operation →
      invariant dialed.stream.writer dialed.stream.inFlight (operation :: dialed.stream.others []) total →
      invariant (dialed.stream.writer.poll operation).writer dialed.stream.inFlight
        (((dialed.stream.writer.poll operation).left operation.request).toList ++ dialed.stream.others []) total) :
    (dialed.pollDeferred now).2.Keeps invariant total := by
  cases next : dialed.deferred.turn? now with
  | none =>
      rw [pollDeferred_idle next]
      exact keeps
  | some operation =>
      rw [pollDeferred_turn next]
      refine Keeps.carryFlush carries (turn operation next ?_)
      unfold Keeps at keeps
      rcases Deferred.turn?_cases next with ⟨due, waits, -, rfl⟩ | flushes
      · rw [waits] at keeps
        exact begins keeps
      · rw [flushes] at keeps
        exact carries.perm keeps (dialed.stream.perm_others [operation]).symm

theorem Keeps.pollDeferred (shares : Shares invariant) (keeps : dialed.Keeps invariant total) (now : Nat) :
    (dialed.pollDeferred now).2.Keeps invariant total :=
  keeps.background shares.carries (fun still => shares.add .flush rfl still) (fun _ _ ready => shares.other ready)

end Calls

theorem refusals_pollDeferred [ByteSink σ] (dialed : Dialed ρ σ) (now : Nat) :
    dialed.stream.writer.sealer.refusals ≤ (dialed.pollDeferred now).2.stream.writer.sealer.refusals := by
  cases next : dialed.deferred.turn? now with
  | none => rw [pollDeferred_idle next]
  | some operation =>
      rw [pollDeferred_turn next, stream_carryFlush]
      exact dialed.stream.writer.refusals_poll operation

/-- Nothing is queued, and a flush in the background has nothing to send. -/
structure Spent (dialed : Dialed ρ σ) : Prop where
  queued : dialed.stream.writer.queued = []
  bare : ∀ operation ∈ dialed.deferred.operations, operation.request.data = [] ∧ operation.stage.rest = []

section Spent

variable [ByteSink σ]

section

variable {dialed : Dialed ρ σ}

theorem Spent.pollWrite (spent : dialed.Spent) (data : Bytes) : (dialed.pollWrite data).2.Spent :=
  ⟨@Duplex.Keeps.pollWrite _ _ _ _ _ _ [] [] shares_queued.carries spent.queued data False.elim, spent.bare⟩

theorem Spent.pollFlush (spent : dialed.Spent) : dialed.pollFlush.2.Spent :=
  ⟨@Duplex.Keeps.pollFlush _ _ _ _ _ _ [] [] shares_queued.carries spent.queued False.elim, spent.bare⟩

theorem Spent.pollShutdown (spent : dialed.Spent) : dialed.pollShutdown.2.Spent := by
  refine ⟨@Duplex.Keeps.pollShutdown _ _ _ _ _ _ [] [] shares_queued.carries spent.queued False.elim, ?_⟩
  have bare := spent.bare
  rw [← Deferred.operations_cancel] at bare
  exact bare

end

variable {dialed : Dialed ρ (Recorded σ)}

theorem Spent.carryFlush (queued : dialed.stream.writer.queued = []) {operation : Operation}
    (bare : operation.request.data = []) (rest : operation.stage.rest = []) :
    (dialed.carryFlush operation).2.Spent ∧
      (dialed.carryFlush operation).2.stream.writer.sink.wire = dialed.stream.writer.sink.wire := by
  have nothing : dialed.stream.writer.queued ++ operation.request.data = [] := by rw [queued, bare, List.nil_append]
  have quiet := dialed.stream.writer.poll_quiet operation rest (Or.inl nothing)
  have still := Writer.queued_poll operation queued
  unfold Dialed.carryFlush
  dsimp only
  split
  · exact ⟨⟨still, List.forall_mem_singleton.mpr ⟨bare, quiet.rest⟩⟩, quiet.wire⟩
  · exact ⟨⟨still, List.forall_mem_nil _⟩, quiet.wire⟩

theorem Spent.pollDeferred (spent : dialed.Spent) (now : Nat) :
    (dialed.pollDeferred now).2.Spent ∧
      (dialed.pollDeferred now).2.stream.writer.sink.wire = dialed.stream.writer.sink.wire := by
  cases next : dialed.deferred.turn? now with
  | none =>
      rw [pollDeferred_idle next]
      exact ⟨spent, rfl⟩
  | some operation =>
      rw [pollDeferred_turn next]
      rcases Deferred.turn?_cases next with ⟨due, -, -, rfl⟩ | flushes
      · exact Spent.carryFlush spent.queued rfl rfl
      · have bare := spent.bare
        rw [flushes] at bare
        obtain ⟨none, rest⟩ := bare operation List.mem_cons_self
        exact Spent.carryFlush spent.queued none rest

theorem spent_pollShutdown (tidy : dialed.Keeps (fun writer accepted others _ => Tidy writer (accepted.toList ++ others)) [])
    (bare : ∀ operation ∈ dialed.deferred.operations, operation.request.data = [])
    (finished : dialed.pollShutdown.1.outcome = .finished) : dialed.pollShutdown.2.Spent := by
  obtain ⟨queued, idle⟩ := Duplex.queued_pollShutdown tidy finished
  refine ⟨queued, ?_⟩
  intro operation mem
  have before : operation ∈ dialed.deferred.operations := by
    rw [← Deferred.operations_cancel]
    exact mem
  exact ⟨bare operation before, Stage.rest_eq_nil (idle operation before)⟩

end Spent

section Drop

variable {dialed : Dialed ρ (Recorded σ)}

theorem drop_eq (dialed : Dialed ρ σ) :
    dialed.drop = ⟨{ dialed.stream with
        writer := dialed.stream.operations.foldl Writer.cancel dialed.stream.writer
        inFlight := none, pendingFlush := none, pendingShutdown := none }, dialed.deferred.cancel⟩ := by
  obtain ⟨⟨reader, writer, inFlight, pendingFlush, pendingShutdown⟩, deferred⟩ := dialed
  cases inFlight <;> cases pendingFlush <;> cases pendingShutdown <;> rfl

theorem wire_drop (dialed : Dialed ρ (Recorded σ)) :
    dialed.drop.stream.writer.sink.wire = dialed.stream.writer.sink.wire := by
  rw [drop_eq]
  exact congrArg Recorded.wire (dialed.stream.writer.cancels_keep dialed.stream.operations).2.2

theorem sealer_drop (dialed : Dialed ρ σ) : dialed.drop.stream.writer.sealer = dialed.stream.writer.sealer := by
  rw [drop_eq]
  exact (dialed.stream.writer.cancels_keep dialed.stream.operations).2.1

theorem Spent.drop (spent : dialed.Spent) : dialed.drop.Spent := by
  rw [drop_eq]
  obtain ⟨queued, bare⟩ := spent
  rw [← Deferred.operations_cancel] at bare
  exact ⟨(dialed.stream.writer.cancels_keep dialed.stream.operations).1.trans queued, bare⟩

/-- If nothing that is dropped is at work, the flush in the background goes on; otherwise it has nothing to send. -/
theorem drop_underway {key : MasterKey} {salts : SaltSource} {good : σ → Prop} {total : Bytes}
    (keeps : dialed.Keeps (Underway key salts good) total) :
    (∃ content lost, content ++ lost = total ∧ dialed.drop.Keeps (Underway key salts good) content) ∨
      dialed.drop.Spent := by
  obtain ⟨⟨content, flowing, whole⟩, bare, here⟩ := keeps
  obtain ⟨-, -, sink⟩ := dialed.stream.writer.cancels_keep dialed.stream.operations
  have bare : ∀ operation ∈ dialed.deferred.cancel.operations, operation.request.data = [] := by
    intro operation mem
    rw [Deferred.operations_cancel] at mem
    exact bare operation (List.mem_append_right _ (List.mem_append_right _ mem))
  have together : dialed.stream.inFlight.toList ++ dialed.stream.others dialed.deferred.operations =
      dialed.stream.operations ++ dialed.deferred.cancel.operations := by
    rw [Deferred.operations_cancel, Duplex.others, Duplex.operations, List.append_assoc, List.append_assoc]
  rw [together] at flowing
  rw [drop_eq]
  rcases flowing.cancels with going | ⟨queued, idle⟩
  · refine Or.inl ⟨content, _, whole, ⟨content, going, List.append_nil content⟩, bare, ?_⟩
    exact sink.symm ▸ here
  · exact Or.inr ⟨queued, fun operation mem => ⟨bare operation mem, Stage.rest_eq_nil (idle operation mem)⟩⟩

theorem drop_withSalts (dialed : Dialed ρ σ) (salts : SaltSource) :
    (dialed.withSalts salts).drop = dialed.drop.withSalts salts := by
  rw [drop_eq, drop_eq]
  dsimp only [withSalts]
  rw [← Writer.cancels_withSalts]
  rfl

theorem drop_floats {key : MasterKey} {good : σ → Prop} {total : Bytes} (keeps : dialed.Keeps (Floats key good) total) :
    (∃ content lost, content ++ lost = total ∧ dialed.drop.Keeps (Floats key good) content) ∨ dialed.drop.Spent := by
  obtain ⟨salts, lost, kept, underway, source, whole, lossless⟩ := keeps
  have resalted : (dialed.withSalts salts).Keeps (Underway key salts good) kept := underway
  rcases drop_underway resalted with ⟨content, dropped, rest, going⟩ | idle
  · rw [drop_withSalts] at going
    refine Or.inl ⟨lost ++ content, dropped, ?_, salts, lost, content, going, ?_, rfl, ?_⟩
    · rw [List.append_assoc, rest, whole]
    · rwa [sealer_drop]
    · rwa [sealer_drop]
  · rw [drop_withSalts] at idle
    exact Or.inr ⟨idle.queued, idle.bare⟩

end Drop
end Dialed
end SealedTunnel
