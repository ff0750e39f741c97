import SealedTunnel.Proofs.Stream.Transit
import SealedTunnel.Stream.Copy

/-!
A writer that several tasks share. They begin at any time, take their steps in any order and are dropped anywhere,
while the sink, the sources and whatever yields the salts do as they like.
-/
namespace SealedTunnel

inductive Task (ρ : Type)
  | call (operation : Operation)
  | copying (copy : Copy ρ)

/-- One read of a copy that has nothing to write; nothing is left of it at the end of the source or after an error. -/
def Copy.fetch {ρ : Type} [ByteSource ρ] (copy : Copy ρ) : Option (Copy ρ) :=
  match ByteSource.read copy.source Wire.longestPayload with
  | (.stalled _, source) => some { copy with source }
  | (.ready (.error _), _) => none
  | (.ready (.ok []), _) => none
  | (.ready (.ok (byte :: rest)), source) =>
    some { copy with source, current := some (.ofRequest (.write (byte :: rest)), (byte :: rest).length) }

namespace Task

variable {ρ σ : Type}

def current? : Task ρ → Option Operation
  | call operation => some operation
  | copying copy => copy.current.map Prod.fst

def resume (step : Step σ) : Task ρ → Option (Task ρ)
  | call operation => (step.left operation.request).map .call
  | copying ⟨source, none, total⟩ => some (copying ⟨source, none, total⟩)
  | copying ⟨source, some (operation, length), total⟩ =>
    match step.result with
    | .stalled _ => some (copying ⟨source, some (⟨operation.request, step.stage⟩, length), total⟩)
    | .ready (.ok _) => some (copying ⟨source, none, total + length⟩)
    | .ready (.error _) => none

def cancelNoted (task : Task ρ) (writer : Writer σ) : Noted (Writer σ) :=
  match task.current? with
  | some operation => writer.cancelNoted operation
  | none => return writer

end Task

def operations {ρ : Type} (tasks : List (Task ρ)) : List Operation := tasks.filterMap Task.current?

theorem operations_resume {ρ σ : Type} {task : Task ρ} {operation : Operation}
    (current : task.current? = some operation) (step : Step σ) (others : List (Task ρ)) :
    operations ((task.resume step).toList ++ others) = (step.left operation.request).toList ++ operations others := by
  rw [operations, List.filterMap_append]
  refine congrArg (· ++ operations others) ?_
  cases task with
  | call operation =>
      cases current
      dsimp only [Task.resume]
      cases step.left operation.request <;> rfl
  | copying copy =>
      obtain ⟨source, _ | ⟨operation, length⟩, total⟩ := copy
      · cases current
      · cases current
        unfold Task.resume Step.left
        obtain (error | done) | reason := step.result <;> rfl

structure Shared (ρ σ : Type) where
  writer : Writer (Recorded σ)
  tasks : List (Task ρ)

namespace Shared

variable {ρ σ : Type}

def fresh (key : MasterKey) (salts : SaltSource) (sink : σ) : Shared ρ σ := ⟨Writer.fresh key salts ⟨sink, []⟩, []⟩

variable [ByteSource ρ] [ByteSink σ]

/-- What may happen next, with notes of it. The salts may come from another source than before, of those allowed. -/
inductive Step (sources : SaltSource → Prop) (shared : Shared ρ σ) : List Note → Shared ρ σ → Prop
  | enqueue (data : Bytes) : Step sources shared [] { shared with writer := shared.writer.enqueue data }
  | call (request : Request) :
      Step sources shared [] { shared with tasks := .call (.ofRequest request) :: shared.tasks }
  | copy (source : ρ) : Step sources shared [] { shared with tasks := .copying (.ofSource source) :: shared.tasks }
  | poll {task : Task ρ} {others : List (Task ρ)} {operation : Operation} (among : shared.tasks.Perm (task :: others))
      (current : task.current? = some operation) :
      Step sources shared (shared.writer.pollNoted operation).notes
        ⟨(shared.writer.poll operation).writer, (task.resume (shared.writer.poll operation)).toList ++ others⟩
  | fetch {copy : Copy ρ} {others : List (Task ρ)} (among : shared.tasks.Perm (.copying copy :: others))
      (idle : copy.current = none) : Step sources shared [] ⟨shared.writer, (copy.fetch.map .copying).toList ++ others⟩
  | drop {task : Task ρ} {others : List (Task ρ)} (among : shared.tasks.Perm (task :: others)) :
      Step sources shared (task.cancelNoted shared.writer).notes ⟨(task.cancelNoted shared.writer).value, others⟩
  | source {copy : Copy ρ} {others : List (Task ρ)} (source : ρ) (among : shared.tasks.Perm (.copying copy :: others)) :
      Step sources shared [] ⟨shared.writer, .copying { copy with source } :: others⟩
  | sink (sink : σ) : Step sources shared [] { shared with writer := shared.writer.withSink sink }
  | salts (salts : SaltSource) (allowed : sources salts) :
      Step sources shared [] { shared with writer.sealer.salts := salts }

inductive Run (sources : SaltSource → Prop) (first : Shared ρ σ) : List Note → Shared ρ σ → Prop
  | nothing : Run sources first [] first
  | step {notes more : List Note} {shared next : Shared ρ σ} (run : Run sources first notes shared)
      (step : Step sources shared more next) : Run sources first (notes ++ more) next

variable {sources : SaltSource → Prop} {first shared : Shared ρ σ} {notes : List Note}

section Copying

omit [ByteSource ρ] [ByteSink σ] in
def copyLeft (outcome : Poll (Except IoError Nat) × Writer (Recorded σ) × Copy ρ) : Option (Task ρ) :=
  match outcome.1 with
  | .stalled _ => some (.copying outcome.2.2)
  | .ready _ => none

variable {strict : Prop} {reaches : Writer (Recorded σ) → Option (Task ρ) → Prop}
  (fetch : ∀ {writer : Writer (Recorded σ)} {source : ρ} {total : Nat},
    (strict → (ByteSource.read source Wire.longestPayload).1.outcome ≠ .failed) →
      reaches writer (some (.copying ⟨source, none, total⟩)) →
        reaches writer ((Copy.fetch ⟨source, none, total⟩).map .copying))
  (write : ∀ {writer : Writer (Recorded σ)} {source : ρ} {operation : Operation} {length total : Nat},
    (strict → (writer.poll operation).result.outcome ≠ .failed) →
      reaches writer (some (.copying ⟨source, some (operation, length), total⟩)) →
        reaches (writer.poll operation).writer
          ((Task.copying ⟨source, some (operation, length), total⟩).resume (writer.poll operation)))

include fetch write

theorem reaches_pull (writer : Writer (Recorded σ)) (source : ρ) (total : Nat)
    (unfailed : strict → (Copy.pull writer source total).1.outcome ≠ .failed)
    (start : reaches writer (some (.copying ⟨source, none, total⟩))) :
    reaches (Copy.pull writer source total).2.1 (copyLeft (Copy.pull writer source total)) := by
  fun_induction Copy.pull writer source total with
  | case1 writer source total reason next read | case2 writer source total error next read
  | case3 writer source total next read =>
      have fetched := fetch (fun strict => by rw [read]; exact unfailed strict) start
      rw [Copy.fetch, read] at fetched
      exact fetched
  | case4 writer source total byte rest next read piece operation step reason result
  | case5 writer source total byte rest next read piece operation step error result =>
      have fetched := fetch (fun _ => by rw [read]; exact nofun) start
      rw [Copy.fetch, read] at fetched
      have written := write (fun strict => by rw [result]; exact unfailed strict) fetched
      rw [Task.resume, result] at written
      exact written
  | case6 writer source total byte rest next read piece operation step done result ih =>
      have fetched := fetch (fun _ => by rw [read]; exact nofun) start
      rw [Copy.fetch, read] at fetched
      have written := write (fun _ => by rw [result]; exact nofun) fetched
      rw [Task.resume, result] at written
      exact ih unfailed written

/-- Carrying a copy on is nothing but reads and steps of writes, one after the other, so that it keeps what these keep.
In a `strict` sense only a copy that does not fail keeps it. -/
theorem reaches_copy (writer : Writer (Recorded σ)) (copy : Copy ρ)
    (unfailed : strict → (copy.poll writer).1.outcome ≠ .failed) (start : reaches writer (some (.copying copy))) :
    reaches (copy.poll writer).2.1 (copyLeft (copy.poll writer)) := by
  obtain ⟨source, _ | ⟨operation, length⟩, total⟩ := copy
  · exact reaches_pull fetch write writer source total unfailed start
  · unfold Copy.poll at unfailed ⊢
    dsimp only at unfailed ⊢
    cases result : (writer.poll operation).result with
    | stalled reason =>
        have written := write (fun _ => by rw [result]; exact nofun) start
        rw [Task.resume, result] at written
        exact written
    | ready answer =>
        rw [result] at unfailed
        cases answer with
        | error error =>
            have written := write (fun strict => by rw [result]; exact unfailed strict) start
            rw [Task.resume, result] at written
            exact written
        | ok done =>
            have written := write (fun _ => by rw [result]; exact nofun) start
            rw [Task.resume, result] at written
            exact reaches_pull fetch write _ source _ unfailed written

end Copying

theorem run_copy (writer : Writer (Recorded σ)) (copy : Copy ρ) (others : List (Task ρ)) :
    ∃ notes, Run sources ⟨writer, .copying copy :: others⟩ notes
      ⟨(copy.poll writer).2.1, (copyLeft (copy.poll writer)).toList ++ others⟩ := by
  refine @reaches_copy ρ σ _ _ False (fun after left => ∃ notes,
    Run sources ⟨writer, .copying copy :: others⟩ notes ⟨after, left.toList ++ others⟩) ?_ ?_ writer copy nofun
    ⟨[], .nothing⟩
  · rintro after source total - ⟨notes, run⟩
    exact ⟨_, run.step (.fetch (.refl _) rfl)⟩
  · rintro after source operation length total - ⟨notes, run⟩
    exact ⟨_, run.step (.poll (.refl _) rfl)⟩

structure Keeps (sources : SaltSource → Prop) (invariant : List Note → Writer (Recorded σ) → List Operation → Prop) :
    Prop where
  perm : ∀ {notes : List Note} {writer : Writer (Recorded σ)} {operations others : List Operation},
    invariant notes writer operations → operations.Perm others → invariant notes writer others
  enqueue : ∀ {notes : List Note} {writer : Writer (Recorded σ)} {operations : List Operation} (data : Bytes),
    invariant notes writer operations → invariant notes (writer.enqueue data) operations
  add : ∀ {notes : List Note} {writer : Writer (Recorded σ)} {operations : List Operation} (request : Request),
    invariant notes writer operations → invariant notes writer (.ofRequest request :: operations)
  poll : ∀ {notes : List Note} {writer : Writer (Recorded σ)} {operation : Operation} {others : List Operation},
    invariant notes writer (operation :: others) →
      invariant (notes ++ (writer.pollNoted operation).notes) (writer.poll operation).writer
        (((writer.poll operation).left operation.request).toList ++ others)
  cancel : ∀ {notes : List Note} {writer : Writer (Recorded σ)} {operation : Operation} {others : List Operation},
    invariant notes writer (operation :: others) →
      invariant (notes ++ (writer.cancelNoted operation).notes) (writer.cancel operation) others
  sink : ∀ {notes : List Note} {writer : Writer (Recorded σ)} {operations : List Operation} (sink : σ),
    invariant notes writer operations → invariant notes (writer.withSink sink) operations
  salts : ∀ {notes : List Note} {writer : Writer (Recorded σ)} {operations : List Operation} (salts : SaltSource),
    sources salts → invariant notes writer operations →
      invariant notes { writer with sealer.salts := salts } operations

variable {invariant : List Note → Writer (Recorded σ) → List Operation → Prop}

theorem Keeps.step {more : List Note} (keeps : Keeps sources invariant)
    (holds : invariant notes shared.writer (operations shared.tasks)) (step : Step sources shared more last) :
    invariant (notes ++ more) last.writer (operations last.tasks) := by
  have first : ∀ {task : Task ρ} {others : List (Task ρ)}, shared.tasks.Perm (task :: others) →
      invariant notes shared.writer (operations (task :: others)) :=
    fun among => keeps.perm holds (among.filterMap _)
  cases step with
  | enqueue data =>
      rw [List.append_nil]
      exact keeps.enqueue data holds
  | call request =>
      rw [List.append_nil]
      exact keeps.add request holds
  | copy source =>
      rw [List.append_nil]
      exact holds
  | @poll task others operation among current =>
      have before := first among
      rw [operations, List.filterMap_cons_some current] at before
      rw [operations_resume current]
      exact keeps.poll before
  | @fetch copy others among idle =>
      have whole := first among
      have rests : (Task.copying copy).current? = none := by rw [Task.current?, idle, Option.map_none]
      have before := whole
      rw [operations, List.filterMap_cons_none rests] at before
      rw [List.append_nil]
      unfold Copy.fetch
      obtain ⟨(error | _ | ⟨byte, rest⟩) | reason, source⟩ := ByteSource.read copy.source Wire.longestPayload
      · exact before
      · exact before
      · exact keeps.add _ before
      · exact whole
  | @drop task others among =>
      have before := first among
      unfold Task.cancelNoted
      cases current : task.current? with
      | none =>
          rw [operations, List.filterMap_cons_none current] at before
          dsimp only
          rw [Noted.notes_pure, List.append_nil, Noted.value_pure]
          exact before
      | some operation =>
          rw [operations, List.filterMap_cons_some current] at before
          dsimp only
          rw [Writer.value_cancelNoted]
          exact keeps.cancel before
  | source source among =>
      have whole := first among
      rw [List.append_nil]
      exact whole
  | sink sink =>
      rw [List.append_nil]
      exact keeps.sink sink holds
  | salts salts allowed =>
      rw [List.append_nil]
      exact keeps.salts salts allowed holds

theorem Keeps.run (keeps : Keeps sources invariant) (run : Run sources first notes last)
    (start : invariant [] first.writer (operations first.tasks)) :
    invariant notes last.writer (operations last.tasks) := by
  induction run with
  | nothing => exact start
  | step run step ih => exact keeps.step ih step

end Shared
end SealedTunnel
