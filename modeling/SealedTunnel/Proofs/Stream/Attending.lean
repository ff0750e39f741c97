import SealedTunnel.Proofs.Stream.Carrying
import SealedTunnel.Proofs.Stream.Readiness
import SealedTunnel.Proofs.Stream.Sharing

/-!
Whom an operation waits for: those that have asked for the lock before and are not finished. Once these are attended to
at a sink that answers at once, it is its turn. A copy that waits for its source is none of them.
-/
namespace SealedTunnel

variable {ρ σ : Type}

theorem operations_suspended {copy : Copy ρ} (idle : copy.current = none) (others : List (Task ρ)) :
    operations (.copying copy :: others) = operations others :=
  List.filterMap_cons_none (by rw [Task.current?, idle, Option.map_none])

theorem operations_cons {task : Task ρ} {operation : Operation} (current : task.current? = some operation)
    (others : List (Task ρ)) : operations (task :: others) = operation :: operations others :=
  List.filterMap_cons_some current

theorem operations_perm {tasks others : List (Task ρ)} (same : tasks.Perm others) :
    (operations tasks).Perm (operations others) := same.filterMap _

theorem exists_ahead {lock : Lock} {operation : Operation} {tasks : List (Task ρ)}
    (crew : Crew lock (operation :: operations tasks)) (behind : lock.holder ≠ operation.stage.ticket?) :
    ∃ task others holder, tasks.Perm (task :: others) ∧ task.current? = some holder ∧
      lock.holder = holder.stage.ticket? ∧ holder.stage.ticket? ≠ none := by
  have serves := crew.serves
  cases held : lock.holder with
  | none =>
      have nobody := serves.holder_eq_none.mp held
      rw [held] at behind
      exact absurd (List.filterMap_eq_nil_iff.mp nobody operation List.mem_cons_self).symm behind
  | some ticket =>
      obtain ⟨holder, among, has⟩ := List.mem_filterMap.mp (serves.holder_mem held)
      rw [held] at behind
      rcases List.mem_cons.mp among with rfl | among
      · exact absurd has.symm behind
      · obtain ⟨task, member, current⟩ := List.mem_filterMap.mp among
        obtain ⟨before, after, rfl⟩ := List.append_of_mem member
        refine ⟨task, before ++ after, holder, List.perm_middle, current, has.symm, ?_⟩
        exact Option.ne_none_iff_exists'.mpr ⟨ticket, has⟩

namespace Shared

variable [ByteSink σ]

inductive Attended : Shared ρ σ → Shared ρ σ → Prop
  | nothing {shared : Shared ρ σ} : Attended shared shared
  | poll {shared last : Shared ρ σ} {task : Task ρ} {others : List (Task ρ)} {operation : Operation}
      (among : shared.tasks.Perm (task :: others)) (current : task.current? = some operation)
      (rest : Attended ⟨(shared.writer.poll operation).writer,
        (task.resume (shared.writer.poll operation)).toList ++ others⟩ last) : Attended shared last

end Shared

/-- Whoever holds the lock is finished as soon as it is attended to, so that sooner or later it is the turn of an
operation. -/
theorem attended_ready [ByteSink σ] {prompt : Recorded σ → Prop} (prompts : Prompt prompt) {operation : Operation}
    {shared : Shared ρ σ} (crew : Crew shared.writer.lock (operation :: operations shared.tasks))
    (ready : prompt shared.writer.sink) :
    ∃ last, shared.Attended last ∧ (last.writer.poll operation).result.isReady := by
  -- The induction is on how many of the others have asked for the lock.
  induction many : (tickets (operations shared.tasks)).length using Nat.strongRecOn generalizing shared with
  | ind count ih =>
      by_cases turn : shared.writer.lock.holder = operation.stage.ticket?
      · exact ⟨shared, .nothing, (crew.finished_iff_turn prompts ready).mpr turn⟩
      · obtain ⟨task, others, holder, among, current, holds, asked⟩ := exists_ahead crew turn
        have same : (operations shared.tasks).Perm (holder :: operations others) := by
          rw [← operations_cons current]
          exact operations_perm among
        have first : Crew shared.writer.lock (holder :: operation :: operations others) :=
          (crew.perm (same.cons operation)).perm (.swap holder operation _)
        have finished := (first.finished_iff_turn prompts ready).mpr holds
        have left : (shared.writer.poll holder).left holder.request = none :=
          Step.left_ready ((Poll.isReady_iff _).mp finished)
        have fewer : operations ((task.resume (shared.writer.poll holder)).toList ++ others) = operations others := by
          rw [operations_resume current, left, Option.toList_none, List.nil_append]
        have less : (tickets (operations others)).length < count := by
          obtain ⟨ticket, has⟩ := Option.ne_none_iff_exists'.mp asked
          have perm : (tickets (operations shared.tasks)).Perm (ticket :: tickets (operations others)) := by
            rw [← tickets_cons _ has]
            exact same.filterMap _
          rw [← many, perm.length_eq, List.length_cons]
          exact Nat.lt_succ_self _
        have after := first.poll
        rw [left, Option.toList_none, List.nil_append, ← fewer] at after
        rw [← fewer] at less
        let next : Shared ρ σ :=
          ⟨(shared.writer.poll holder).writer, (task.resume (shared.writer.poll holder)).toList ++ others⟩
        obtain ⟨last, rest, done⟩ := @ih _ less next after (poll_keeps_prompt prompts first ready) rfl
        exact ⟨last, .poll among current rest, done⟩

end SealedTunnel
