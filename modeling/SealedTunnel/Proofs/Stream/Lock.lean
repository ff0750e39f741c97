import SealedTunnel.Stream.Lock

/-! Whom a lock serves: the tickets it has issued and not taken back, each once. -/
namespace SealedTunnel

namespace Lock

def line (lock : Lock) : List Ticket := lock.holder.toList ++ lock.queue

theorem request_idle {lock : Lock} (idle : lock.holder = none) :
    lock.request = (lock.next, { lock with holder := some lock.next, next := lock.next + 1 }) := by
  rw [request, idle]

theorem request_held {lock : Lock} {holder : Ticket} (held : lock.holder = some holder) :
    lock.request = (lock.next, { lock with queue := lock.queue ++ [lock.next], next := lock.next + 1 }) := by
  rw [request, held]

structure Serves (lock : Lock) (tickets : List Ticket) : Prop where
  idle : lock.holder = none → lock.queue = []
  line : lock.line.Perm tickets
  distinct : tickets.Nodup
  issued : ∀ ticket ∈ tickets, ticket < lock.next

theorem serves_free : free.Serves [] := ⟨fun _ => rfl, .refl _, .nil, List.forall_mem_nil _⟩

namespace Serves

variable {lock : Lock} {ticket : Ticket} {tickets others : List Ticket}

theorem perm (serves : lock.Serves tickets) (same : tickets.Perm others) : lock.Serves others where
  idle := serves.idle
  line := serves.line.trans same
  distinct := same.nodup_iff.mp serves.distinct
  issued := fun ticket mem => serves.issued ticket (same.mem_iff.mpr mem)

theorem holder_mem (serves : lock.Serves tickets) (holds : lock.holder = some ticket) : ticket ∈ tickets := by
  refine serves.line.mem_iff.mp ?_
  rw [Lock.line, holds]
  exact List.mem_cons_self

theorem holder_eq_none (serves : lock.Serves tickets) : lock.holder = none ↔ tickets = [] := by
  constructor
  · intro none
    have line := serves.line
    rw [Lock.line, none, serves.idle none] at line
    exact line.nil_eq.symm
  · rintro rfl
    cases held : lock.holder with
    | none => rfl
    | some ticket => exact absurd (serves.holder_mem held) List.not_mem_nil

theorem request (serves : lock.Serves tickets) : lock.request.2.Serves (lock.request.1 :: tickets) := by
  have unused : lock.next ∉ tickets := fun mem => Nat.lt_irrefl _ (serves.issued _ mem)
  have issued : ∀ ticket ∈ lock.next :: tickets, ticket < lock.next + 1 := by
    intro ticket mem
    rcases List.mem_cons.mp mem with rfl | mem
    · exact Nat.lt_succ_self _
    · exact Nat.lt_succ_of_lt (serves.issued ticket mem)
  cases held : lock.holder with
  | none =>
      have empty := serves.holder_eq_none.mp held
      subst empty
      rw [request_idle held]
      refine ⟨fun none => (Option.some_ne_none _ none).elim, ?_, List.pairwise_singleton _ _, issued⟩
      rw [Lock.line, serves.idle held]
      exact .refl _
  | some holder =>
      rw [request_held held]
      refine ⟨fun none => ?_, ?_, List.nodup_cons.mpr ⟨unused, serves.distinct⟩, issued⟩
      · cases held.symm.trans none
      · have line := serves.line
        have longer : (lock.line ++ [lock.next]).Perm (lock.next :: lock.line) := List.perm_append_singleton _ _
        rw [Lock.line, List.append_assoc] at longer
        exact longer.trans (line.cons _)

theorem granted (serves : lock.Serves tickets) :
    lock.request.2.holder = some lock.request.1 ↔ tickets = [] := by
  rw [← serves.holder_eq_none]
  cases held : lock.holder with
  | none =>
      rw [request_idle held]
      exact ⟨fun _ => rfl, fun _ => rfl⟩
  | some holder =>
      have earlier := serves.issued holder (serves.holder_mem held)
      rw [request_held held]
      constructor
      · intro same
        cases held.symm.trans same
        exact absurd earlier (Nat.lt_irrefl _)
      · intro none
        cases none

theorem only (serves : lock.Serves [ticket]) : lock.holder = some ticket := by
  cases held : lock.holder with
  | none =>
      have nobody := serves.holder_eq_none.mp held
      cases nobody
  | some holder =>
      have same := List.mem_singleton.mp (serves.holder_mem held)
      rw [same]

theorem release (serves : lock.Serves (ticket :: tickets)) (holds : lock.holder = some ticket) :
    lock.release.Serves tickets := by
  have line := serves.line
  rw [Lock.line, holds] at line
  have waiting : lock.queue.Perm tickets := line.cons_inv
  refine ⟨?_, ?_, (List.nodup_cons.mp serves.distinct).2, ?_⟩
  · cases waits : lock.queue with
    | nil => exact fun _ => by rw [Lock.release, waits]; rfl
    | cons next later => exact fun none => by rw [Lock.release, waits] at none; cases none
  · refine .trans (.of_eq ?_) waiting
    rw [Lock.line, Lock.release]
    cases lock.queue <;> rfl
  · exact fun other mem => serves.issued other (List.mem_cons_of_mem _ mem)

theorem leave (serves : lock.Serves (ticket :: tickets)) : (lock.leave ticket).Serves tickets := by
  unfold Lock.leave
  by_cases holds : lock.holder = some ticket
  · rw [if_pos holds]
    exact serves.release holds
  · rw [if_neg holds]
    obtain ⟨absent, distinct⟩ := List.nodup_cons.mp serves.distinct
    refine ⟨?_, ?_, distinct, fun other mem => serves.issued other (List.mem_cons_of_mem _ mem)⟩
    · intro none
      rw [serves.idle none]
      rfl
    · have line := serves.line.filter (· ≠ ticket)
      have others : (ticket :: tickets).filter (· ≠ ticket) = tickets := by
        rw [List.filter_cons_of_neg (by simp), List.filter_eq_self]
        intro other mem
        exact decide_eq_true (fun same => absent (same ▸ mem))
      have holder : lock.holder.toList.filter (· ≠ ticket) = lock.holder.toList := by
        rw [List.filter_eq_self]
        intro other mem
        exact decide_eq_true (fun same => holds (same ▸ Option.mem_toList.mp mem))
      rwa [others, Lock.line, List.filter_append, holder] at line

end Serves
end Lock
end SealedTunnel
