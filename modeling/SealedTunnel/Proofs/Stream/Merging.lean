import SealedTunnel.Proofs.Scripted.Sink
import SealedTunnel.Proofs.Stream.Attending
import SealedTunnel.Proofs.Stream.Plaintext
import SealedTunnel.Scripted.Source

namespace SealedTunnel

/-- Who hands data to a writer: whoever queues it, or a caller of its operations. -/
inductive Origin
  | queue
  | caller (name : Nat)
  deriving DecidableEq

/-- Data that is to stay in one piece: queued by one call, given to one write, or read at once by a copy. -/
structure Part where
  origin : Origin
  data : Bytes

def partsOf (origin : Origin) (parts : List Part) : List Part := parts.filter (·.origin = origin)

def joined (parts : List Part) : Bytes := parts.flatMap Part.data

def Request.parts (name : Nat) : Request → List Part
  | write data => [⟨.caller name, data⟩]
  | flush | shutdown => []

/-- What a caller has handed over by operations that have not begun to send it. -/
def outstanding (name : Nat) (operations : List Operation) : List Part :=
  operations.flatMap fun operation => if operation.stage.isActive then [] else operation.request.parts name

section Parts

variable (origin : Origin) (name : Nat) (parts others : List Part)

theorem partsOf_append : partsOf origin (parts ++ others) = partsOf origin parts ++ partsOf origin others :=
  List.filter_append _ _

theorem joined_append : joined (parts ++ others) = joined parts ++ joined others := List.flatMap_append

variable {origin parts}

theorem partsOf_same (same : ∀ part ∈ parts, part.origin = origin) : partsOf origin parts = parts := by
  refine List.filter_eq_self.mpr ?_
  intro part mem
  exact decide_eq_true (same part mem)

theorem partsOf_other {other : Origin} (same : ∀ part ∈ parts, part.origin = other) (different : other ≠ origin) :
    partsOf origin parts = [] := by
  refine List.filter_eq_nil_iff.mpr ?_
  intro part mem
  rw [same part mem]
  exact fun equal => different (of_decide_eq_true equal)

theorem origin_request (request : Request) : ∀ part ∈ request.parts name, part.origin = .caller name := by
  intro part mem
  cases request with
  | write data => rw [List.mem_singleton.mp mem]
  | flush | shutdown => cases mem

theorem origin_outstanding (operations : List Operation) :
    ∀ part ∈ outstanding name operations, part.origin = .caller name := by
  intro part mem
  obtain ⟨operation, -, among⟩ := List.mem_flatMap.mp mem
  split at among
  · cases among
  · exact origin_request name operation.request part among

theorem outstanding_one (operation : Operation) :
    outstanding name [operation] = if operation.stage.isActive then [] else operation.request.parts name :=
  List.flatMap_singleton _ _

theorem outstanding_begun {operations : List Operation} (begun : ∀ operation ∈ operations, operation.stage.isActive) :
    outstanding name operations = [] := by
  refine List.flatMap_eq_nil_iff.mpr ?_
  intro operation mem
  exact if_pos (begun operation mem)

theorem joined_outstanding (operation : Operation) : joined (outstanding name [operation]) = operation.unsealed := by
  rw [outstanding_one]
  unfold Operation.unsealed
  split
  · rfl
  · obtain ⟨request, stage⟩ := operation
    cases request with
    | write data => exact List.flatMap_singleton _ _
    | flush | shutdown => rfl

end Parts

/-- An operation takes what is queued together with its own data when it begins, and nothing before or afterwards. -/
theorem Transit.poll_takes {σ : Type} [ByteSink σ] {key : MasterKey} {salts : SaltSource} {writer : Writer (Recorded σ)}
    {operation : Operation} {others : List Operation} {content : Bytes}
    (transit : Transit key salts [] writer (operation :: others) content)
    (unfailed : (writer.poll operation).result.outcome ≠ .failed) (name : Nat) :
    let step := writer.poll operation
    let left := (step.left operation.request).toList
    (step.writer.queued = [] ∧ outstanding name left = [] ∧
        Transit key salts [] step.writer (left ++ others) (content ++ joined (outstanding name [operation]))) ∨
      (step.writer.queued = writer.queued ∧ outstanding name left = outstanding name [operation] ∧
        Transit key salts [] step.writer (left ++ others) content) := by
  intro step left
  obtain ⟨⟨later, after, moved⟩, lossless⟩ := transit.poll
  have same : later ++ unsealed left = content ++ operation.unsealed := moved (lossless unfailed)
  rw [gapsIn_lossless (lossless unfailed), List.append_nil] at after
  rw [joined_outstanding]
  cases transit.crew.carried with
  | @granted ticket asked asks _ holds idle granted =>
      have turn := Writer.turn_keeps { writer with lock := asked } operation.request ticket operation.stage
      have queued := Writer.queued_turn { writer with lock := asked } operation.request ticket operation.stage
      rw [← granted] at turn queued
      have begun : ∀ other ∈ left, other.stage.isActive := by
        intro other mem
        exact (turn.left (Option.mem_toList.mp mem)).1
      have sealed : unsealed left = [] := by
        refine List.flatMap_eq_nil_iff.mpr ?_
        intro other mem
        exact Operation.unsealed_active (begun other mem)
      rw [sealed, List.append_nil] at same
      subst same
      by_cases active : operation.stage.isActive
      · rw [if_pos active] at queued
        rw [Operation.unsealed_active active, List.append_nil] at after
        refine Or.inr ⟨queued, ?_, after⟩
        rw [outstanding_begun name begun, outstanding_one, if_pos active]
      · rw [if_neg active] at queued
        exact Or.inl ⟨queued, outstanding_begun name begun, after⟩
  | @waits ticket asked asks _ behind idle waits =>
      have waiting : left = [⟨operation.request, .waiting ticket⟩] := by
        dsimp only [left, step]
        rw [waits]
        rfl
      have unsealed : unsealed left = operation.unsealed := by
        rw [waiting, Operation.unsealed_idle idle]
        exact List.flatMap_singleton _ _
      rw [unsealed] at same
      refine Or.inr ⟨?_, ?_, List.append_cancel_right same ▸ after⟩
      · dsimp only [step]
        rw [waits]
      · rw [waiting, outstanding_one, outstanding_one, idle]
        rfl

structure Caller (ρ : Type) where
  name : Nat
  task : Task ρ

def Caller.parts {ρ : Type} (caller : Caller ρ) : List Part := outstanding caller.name (operations [caller.task])

/-- Callers and what they have handed over, of which so much is sent: each part of it once and in order. -/
structure Ordered {ρ : Type} (callers : List (Caller ρ)) (handed sent : List Part) : Prop where
  distinct : (callers.map Caller.name).Nodup
  busy : ∀ caller ∈ callers,
    partsOf (.caller caller.name) handed = partsOf (.caller caller.name) sent ++ caller.parts
  done : ∀ name, (∀ caller ∈ callers, caller.name ≠ name) →
    partsOf (.caller name) handed = partsOf (.caller name) sent

namespace Ordered

variable {ρ : Type} {callers others : List (Caller ρ)} {handed sent more later : List Part} {name : Nat}

theorem none : Ordered ([] : List (Caller ρ)) [] [] := ⟨.nil, List.forall_mem_nil _, fun _ _ => rfl⟩

theorem perm (ordered : Ordered callers handed sent) (same : callers.Perm others) : Ordered others handed sent where
  distinct := (same.map _).nodup_iff.mp ordered.distinct
  busy := fun caller mem => ordered.busy caller (same.mem_iff.mpr mem)
  done := fun name absent => ordered.done name fun caller mem => absent caller (same.mem_iff.mp mem)

theorem free {task : Task ρ} (ordered : Ordered (⟨name, task⟩ :: others) handed sent) :
    ∀ caller ∈ others, caller.name ≠ name := by
  intro caller mem same
  exact (List.nodup_cons.mp ordered.distinct).1 (List.mem_map.mpr ⟨caller, mem, same⟩)

theorem mine (current : Option (Task ρ)) (ordered : Ordered (current.toList.map (.mk name) ++ others) handed sent)
    (free : ∀ caller ∈ others, caller.name ≠ name) :
    partsOf (.caller name) handed = partsOf (.caller name) sent ++ outstanding name (operations current.toList) := by
  cases current with
  | none => exact (ordered.done name free).trans (List.append_nil _).symm
  | some task => exact ordered.busy ⟨name, task⟩ List.mem_cons_self

theorem update (current : Option (Task ρ)) {next : Option (Task ρ)}
    (ordered : Ordered (current.toList.map (.mk name) ++ others) handed sent)
    (free : ∀ caller ∈ others, caller.name ≠ name)
    (mine : partsOf (.caller name) (handed ++ more) =
      partsOf (.caller name) (sent ++ later) ++ outstanding name (operations next.toList))
    (alien : ∀ other, other ≠ name → partsOf (.caller other) more = [] ∧ partsOf (.caller other) later = []) :
    Ordered (next.toList.map (.mk name) ++ others) (handed ++ more) (sent ++ later) := by
  have still : ∀ other, other ≠ name → partsOf (.caller other) (handed ++ more) = partsOf (.caller other) handed ∧
      partsOf (.caller other) (sent ++ later) = partsOf (.caller other) sent := by
    intro other different
    obtain ⟨handedNone, sentNone⟩ := alien other different
    rw [partsOf_append, partsOf_append, handedNone, sentNone, List.append_nil, List.append_nil]
    exact ⟨rfl, rfl⟩
  refine ⟨?_, ?_, ?_⟩
  · have distinct := ordered.distinct
    rw [List.map_append] at distinct
    have rest := (List.nodup_append.mp distinct).2.1
    cases next with
    | none => exact rest
    | some task =>
        refine List.nodup_cons.mpr ⟨?_, rest⟩
        intro mem
        obtain ⟨caller, among, same⟩ := List.mem_map.mp mem
        exact free caller among same
  · intro caller mem
    rcases List.mem_append.mp mem with first | among
    · obtain ⟨task, kept, rfl⟩ := List.mem_map.mp first
      cases Option.mem_toList.mp kept
      exact mine
    · obtain ⟨handedSame, sentSame⟩ := still caller.name (free caller among)
      rw [handedSame, sentSame]
      exact ordered.busy caller (List.mem_append_right _ among)
  · intro stranger absent
    by_cases same : stranger = name
    · subst same
      cases next with
      | none => exact mine.trans (List.append_nil _)
      | some task => exact absurd rfl (absent ⟨stranger, task⟩ List.mem_cons_self)
    · obtain ⟨handedSame, sentSame⟩ := still stranger same
      rw [handedSame, sentSame]
      refine ordered.done stranger ?_
      intro caller mem
      rcases List.mem_append.mp mem with first | among
      · obtain ⟨task, -, rfl⟩ := List.mem_map.mp first
        exact fun equal => same equal.symm
      · exact absent caller (List.mem_append_right _ among)

theorem sends (current next : Option (Task ρ))
    (ordered : Ordered (current.toList.map (.mk name) ++ others) handed sent)
    (free : ∀ caller ∈ others, caller.name ≠ name)
    (whole : partsOf (.caller name) later ++ outstanding name (operations next.toList) =
      outstanding name (operations current.toList))
    (alien : ∀ other, other ≠ name → partsOf (.caller other) later = []) :
    Ordered (next.toList.map (.mk name) ++ others) handed (sent ++ later) := by
  have updated : Ordered (next.toList.map (.mk name) ++ others) (handed ++ []) (sent ++ later) := by
    refine ordered.update current free ?_ fun other different => ⟨rfl, alien other different⟩
    rw [List.append_nil, partsOf_append, List.append_assoc, whole]
    exact ordered.mine current free
  rwa [List.append_nil] at updated

theorem stays (current next : Option (Task ρ))
    (ordered : Ordered (current.toList.map (.mk name) ++ others) handed sent)
    (free : ∀ caller ∈ others, caller.name ≠ name)
    (still : outstanding name (operations next.toList) = outstanding name (operations current.toList)) :
    Ordered (next.toList.map (.mk name) ++ others) handed sent := by
  have updated : Ordered (next.toList.map (.mk name) ++ others) handed (sent ++ []) :=
    ordered.sends current next free still fun other _ => rfl
  rwa [List.append_nil] at updated

end Ordered

structure Crowd (ρ σ : Type) where
  writer : Writer (Recorded σ)
  callers : List (Caller ρ)

def Copy.piece {ρ : Type} [ByteSource ρ] (copy : Copy ρ) (name : Nat) : List Part :=
  match (ByteSource.read copy.source Wire.longestPayload).1 with
  | .ready (.ok (byte :: rest)) => [⟨.caller name, byte :: rest⟩]
  | _ => []

namespace Crowd

variable {ρ σ : Type}

def tasks (crowd : Crowd ρ σ) : List (Task ρ) := crowd.callers.map Caller.task

def fresh (key : MasterKey) (salts : SaltSource) (sink : σ) : Crowd ρ σ := ⟨Writer.fresh key salts ⟨sink, []⟩, []⟩

/-- So much is sent of what was handed over; of what was queued, some is left, and of the rest only what is
outstanding. -/
structure Merging (key : MasterKey) (salts : SaltSource) (crowd : Crowd ρ σ) (handed sent left : List Part) : Prop where
  transit : Transit key salts [] crowd.writer (operations crowd.tasks) (joined (sent ++ left))
  queued : joined left = crowd.writer.queued
  lazy : ∀ part ∈ left, part.origin = .queue
  queue : partsOf .queue handed = partsOf .queue sent ++ left
  ordered : Ordered crowd.callers handed sent

variable {key : MasterKey} {salts : SaltSource} {writer : Writer (Recorded σ)} {others : List (Caller ρ)}
  {handed sent left : List Part} {name : Nat}

theorem merging_fresh (key : MasterKey) (salts : SaltSource) (sink : σ) :
    Merging key salts (fresh key salts sink : Crowd ρ σ) [] [] [] where
  transit := .fresh key salts sink
  queued := rfl
  lazy := List.forall_mem_nil _
  queue := rfl
  ordered := .none

theorem tasks_update (writer : Writer (Recorded σ)) (name : Nat) (next : Option (Task ρ)) (others : List (Caller ρ)) :
    tasks ⟨writer, next.toList.map (.mk name) ++ others⟩ = next.toList ++ others.map Caller.task := by
  rw [tasks, List.map_append, List.map_map]
  exact congrArg (· ++ _) (List.map_id _)

theorem operations_update (writer : Writer (Recorded σ)) (name : Nat) (next : Option (Task ρ))
    (others : List (Caller ρ)) :
    operations (tasks ⟨writer, next.toList.map (.mk name) ++ others⟩) =
      operations next.toList ++ operations (others.map Caller.task) := by
  rw [tasks_update]
  exact List.filterMap_append

namespace Merging

theorem perm {callers : List (Caller ρ)} (merging : Merging key salts ⟨writer, callers⟩ handed sent left)
    (same : callers.Perm others) : Merging key salts ⟨writer, others⟩ handed sent left where
  transit := merging.transit.perm (operations_perm (same.map _))
  queued := merging.queued
  lazy := merging.lazy
  queue := merging.queue
  ordered := merging.ordered.perm same

theorem enqueue {callers : List (Caller ρ)} (merging : Merging key salts ⟨writer, callers⟩ handed sent left)
    (data : Bytes) :
    Merging key salts ⟨writer.enqueue data, callers⟩ (handed ++ [⟨.queue, data⟩]) sent (left ++ [⟨.queue, data⟩]) := by
  obtain ⟨transit, queued, lazy, queue, distinct, busy, done⟩ := merging
  have own : joined [(⟨.queue, data⟩ : Part)] = data := List.append_nil data
  have alien : ∀ name, partsOf (.caller name) [(⟨.queue, data⟩ : Part)] = [] := fun name => rfl
  refine ⟨?_, ?_, ?_, ?_, distinct, ?_, ?_⟩
  · rw [← List.append_assoc, joined_append, own]
    exact transit.enqueue data
  · rw [joined_append, queued, own]
    rfl
  · exact List.forall_mem_append.mpr ⟨lazy, List.forall_mem_singleton.mpr rfl⟩
  · rw [partsOf_append, queue, List.append_assoc]
    rfl
  · intro caller mem
    rw [partsOf_append, alien, List.append_nil]
    exact busy caller mem
  · intro name absent
    rw [partsOf_append, alien, List.append_nil]
    exact done name absent

theorem withSink {callers : List (Caller ρ)} (merging : Merging key salts ⟨writer, callers⟩ handed sent left)
    (sink : σ) :
    Merging key salts ⟨writer.withSink sink, callers⟩ handed sent left where
  transit := merging.transit.withSink sink
  queued := merging.queued
  lazy := merging.lazy
  queue := merging.queue
  ordered := merging.ordered

theorem same (current next : Option (Task ρ))
    (merging : Merging key salts ⟨writer, current.toList.map (.mk name) ++ others⟩ handed sent left)
    (free : ∀ caller ∈ others, caller.name ≠ name) (still : operations next.toList = operations current.toList) :
    Merging key salts ⟨writer, next.toList.map (.mk name) ++ others⟩ handed sent left := by
  obtain ⟨transit, queued, lazy, queue, ordered⟩ := merging
  rw [operations_update, ← still, ← operations_update writer name] at transit
  exact ⟨transit, queued, lazy, queue, ordered.stays current next free (congrArg (outstanding name) still)⟩

theorem begin (current next : Option (Task ρ))
    (merging : Merging key salts ⟨writer, current.toList.map (.mk name) ++ others⟩ handed sent left)
    (free : ∀ caller ∈ others, caller.name ≠ name) {request : Request} (idle : operations current.toList = [])
    (begun : operations next.toList = [.ofRequest request]) :
    Merging key salts ⟨writer, next.toList.map (.mk name) ++ others⟩ (handed ++ request.parts name) sent left := by
  obtain ⟨transit, queued, lazy, queue, ordered⟩ := merging
  have own := origin_request name request
  have updated : Ordered (next.toList.map (.mk name) ++ others) (handed ++ request.parts name) (sent ++ []) := by
    refine ordered.update current free ?_ ?_
    · rw [begun, outstanding_one, List.append_nil, partsOf_append, partsOf_same own, ordered.mine current free, idle]
      exact congrArg (· ++ _) (List.append_nil _)
    · intro other different
      exact ⟨partsOf_other own fun same => different (by cases same; rfl), rfl⟩
  rw [List.append_nil] at updated
  rw [operations_update, idle] at transit
  refine ⟨?_, queued, lazy, ?_, updated⟩
  · rw [operations_update, begun]
    exact transit.add request
  · rw [partsOf_append, partsOf_other own (fun same => by cases same), List.append_nil]
    exact queue

theorem poll [ByteSink σ] {task : Task ρ} {operation : Operation}
    (merging : Merging key salts ⟨writer, ⟨name, task⟩ :: others⟩ handed sent left)
    (current : task.current? = some operation) (unfailed : (writer.poll operation).result.outcome ≠ .failed) :
    ∃ sent left, Merging key salts ⟨(writer.poll operation).writer,
      (task.resume (writer.poll operation)).toList.map (.mk name) ++ others⟩ handed sent left := by
  obtain ⟨transit, queued, lazy, queue, ordered⟩ := merging
  have free := ordered.free
  have own := origin_outstanding name [operation]
  have before : operations (some task).toList = [operation] := operations_cons current []
  have resumed : operations (task.resume (writer.poll operation)).toList =
      ((writer.poll operation).left operation.request).toList := by
    have resumed := operations_resume current (writer.poll operation) []
    rw [List.append_nil] at resumed
    exact resumed.trans (List.append_nil _)
  rw [tasks, List.map_cons, operations_cons current] at transit
  rcases transit.poll_takes unfailed name with ⟨empty, begun, after⟩ | ⟨still, same, after⟩
  · -- Whatever was queued goes before the data of the operation, and nothing is left.
    refine ⟨sent ++ (left ++ outstanding name [operation]), [], ?_, empty.symm, List.forall_mem_nil _, ?_, ?_⟩
    · rw [operations_update, resumed, List.append_nil, ← List.append_assoc, joined_append]
      exact after
    · rw [partsOf_append, partsOf_append, partsOf_same lazy, partsOf_other own (fun same => by cases same), queue,
        List.append_nil, List.append_nil]
    · refine ordered.sends (some task) _ free ?_ ?_
      · rw [partsOf_append, partsOf_other lazy (fun same => by cases same), partsOf_same own, resumed, begun, before]
        exact List.append_nil _
      · intro other different
        rw [partsOf_append, partsOf_other lazy (fun same => by cases same), partsOf_other own]
        · rfl
        · exact fun same => different (by cases same; rfl)
  · refine ⟨sent, left, ?_, queued.trans still.symm, lazy, queue, ?_⟩
    · rw [operations_update, resumed]
      exact after
    · refine ordered.stays (some task) _ free ?_
      rw [resumed, before]
      exact same

end Merging

variable [ByteSource ρ] [ByteSink σ]

/-- What may happen next while nothing fails, and what is handed to the writer by it. -/
inductive Step (crowd : Crowd ρ σ) : List Part → Crowd ρ σ → Prop
  | enqueue (data : Bytes) : Step crowd [⟨.queue, data⟩] { crowd with writer := crowd.writer.enqueue data }
  | call (name : Nat) (request : Request) (free : ∀ caller ∈ crowd.callers, caller.name ≠ name) :
      Step crowd (request.parts name)
        { crowd with callers := ⟨name, .call (.ofRequest request)⟩ :: crowd.callers }
  | copy (name : Nat) (source : ρ) (free : ∀ caller ∈ crowd.callers, caller.name ≠ name) :
      Step crowd [] { crowd with callers := ⟨name, .copying (.ofSource source)⟩ :: crowd.callers }
  | poll {name : Nat} {task : Task ρ} {others : List (Caller ρ)} {operation : Operation}
      (among : crowd.callers.Perm (⟨name, task⟩ :: others)) (current : task.current? = some operation)
      (unfailed : (crowd.writer.poll operation).result.outcome ≠ .failed) :
      Step crowd [] ⟨(crowd.writer.poll operation).writer,
        (task.resume (crowd.writer.poll operation)).toList.map (.mk name) ++ others⟩
  | fetch {name : Nat} {copy : Copy ρ} {others : List (Caller ρ)}
      (among : crowd.callers.Perm (⟨name, .copying copy⟩ :: others)) (idle : copy.current = none)
      (unfailed : (ByteSource.read copy.source Wire.longestPayload).1.outcome ≠ .failed) :
      Step crowd (copy.piece name) ⟨crowd.writer, (copy.fetch.map .copying).toList.map (.mk name) ++ others⟩
  | source {name : Nat} {copy : Copy ρ} {others : List (Caller ρ)} (source : ρ)
      (among : crowd.callers.Perm (⟨name, .copying copy⟩ :: others)) :
      Step crowd [] ⟨crowd.writer, ⟨name, .copying { copy with source }⟩ :: others⟩
  | sink (sink : σ) : Step crowd [] { crowd with writer := crowd.writer.withSink sink }

/-- What a crowd comes to, and all that was handed to its writer, in order. -/
inductive Gathers (first : Crowd ρ σ) : List Part → Crowd ρ σ → Prop
  | nothing : Gathers first [] first
  | step {handed more : List Part} {crowd next : Crowd ρ σ} (before : Gathers first handed crowd)
      (step : Step crowd more next) : Gathers first (handed ++ more) next

variable {crowd next : Crowd ρ σ} {more : List Part}

omit [ByteSink σ] in
theorem fetch_cases (copy : Copy ρ) (name : Nat) (idle : copy.current = none) :
    operations (copy.fetch.map Task.copying).toList = [] ∧ copy.piece name = [] ∨
      ∃ data, operations (copy.fetch.map Task.copying).toList = [.ofRequest (.write data)] ∧
        copy.piece name = (Request.write data).parts name := by
  obtain ⟨source, current, total⟩ := copy
  cases idle
  unfold Copy.fetch Copy.piece
  dsimp only
  obtain ⟨(error | _ | ⟨byte, rest⟩) | reason, next⟩ := ByteSource.read source Wire.longestPayload
  · exact Or.inl ⟨rfl, rfl⟩
  · exact Or.inl ⟨rfl, rfl⟩
  · exact Or.inr ⟨byte :: rest, rfl, rfl⟩
  · exact Or.inl ⟨rfl, rfl⟩

theorem Merging.step (merging : Merging key salts crowd handed sent left) (step : Step crowd more next) :
    ∃ sent left, Merging key salts next (handed ++ more) sent left := by
  obtain ⟨writer, callers⟩ := crowd
  cases step with
  | enqueue data => exact ⟨sent, _, merging.enqueue data⟩
  | call name request free =>
      exact ⟨sent, left, merging.begin none (some (.call (.ofRequest request))) free rfl rfl⟩
  | copy name source free =>
      rw [List.append_nil]
      exact ⟨sent, left, merging.same none (some (.copying (.ofSource source))) free rfl⟩
  | poll among current unfailed =>
      rw [List.append_nil]
      exact (merging.perm among).poll current unfailed
  | @fetch name copy others among idle unfailed =>
      have first := merging.perm among
      have free := first.ordered.free
      have nothing : operations (some (Task.copying copy)).toList = [] := operations_suspended idle []
      rcases fetch_cases copy name idle with ⟨none, empty⟩ | ⟨data, one, piece⟩
      · rw [empty, List.append_nil]
        exact ⟨sent, left, first.same (some (.copying copy)) _ free (none.trans nothing.symm)⟩
      · rw [piece]
        exact ⟨sent, left, first.begin (some (.copying copy)) _ free nothing one⟩
  | @source name copy others source among =>
      have first := merging.perm among
      rw [List.append_nil]
      have moved := first.same (some (.copying copy)) (some (.copying { copy with source })) first.ordered.free rfl
      exact ⟨sent, left, moved⟩
  | sink sink =>
      rw [List.append_nil]
      exact ⟨sent, left, merging.withSink sink⟩

/-- A copy that is carried on takes such steps, as long as it does not fail. -/
theorem Gathers.copy {first : Crowd ρ σ} {copy : Copy ρ}
    (gathers : Gathers first handed ⟨writer, ⟨name, .copying copy⟩ :: others⟩)
    (unfailed : (copy.poll writer).1.outcome ≠ .failed) :
    ∃ more, Gathers first (handed ++ more)
      ⟨(copy.poll writer).2.1, (Shared.copyLeft (copy.poll writer)).toList.map (.mk name) ++ others⟩ := by
  refine @Shared.reaches_copy ρ σ _ _ True (fun after left => ∃ more,
    Gathers first (handed ++ more) ⟨after, left.toList.map (.mk name) ++ others⟩)
    ?_ ?_ writer copy (fun _ => unfailed) ?_
  · rintro after source total going ⟨more, before⟩
    have fetched := before.step (.fetch (.refl _) rfl (going trivial))
    rw [List.append_assoc] at fetched
    exact ⟨_, fetched⟩
  · rintro after source operation length total going ⟨more, before⟩
    have written := before.step (.poll (.refl _) rfl (going trivial))
    rw [List.append_assoc] at written
    exact ⟨_, written⟩
  · refine ⟨[], ?_⟩
    rw [List.append_nil]
    exact gathers

theorem Gathers.merging {first : Crowd ρ σ} (gathers : Gathers first handed crowd)
    (start : Merging key salts first [] [] []) : ∃ sent left, Merging key salts crowd handed sent left := by
  induction gathers with
  | nothing => exact ⟨[], [], start⟩
  | step before step ih =>
      obtain ⟨sent, left, merging⟩ := ih
      exact merging.step step

omit [ByteSource ρ] [ByteSink σ] in
theorem Merging.shows (merging : Merging key salts crowd handed sent left) (ended : crowd.callers = []) :
    (Wire.decode key crowd.writer.sink.wire).2 = .whole ∧
      Wire.plaintext key crowd.writer.sink.wire = joined sent ∧
        ∀ name, partsOf (.caller name) sent = partsOf (.caller name) handed := by
  obtain ⟨writer, callers⟩ := crowd
  cases ended
  obtain ⟨payloads, stream, wrote, mended, same⟩ := merging.transit.passage_idle (List.forall_mem_nil _)
  rw [List.append_nil, ← Wire.mended_iff.mp mended] at wrote
  rw [joined_append, merging.queued] at same
  rw [wrote.decode, wrote.plaintext, List.append_cancel_right same]
  exact ⟨rfl, rfl, fun name => (merging.ordered.done name (List.forall_mem_nil _)).symm⟩

omit [ByteSource ρ] [ByteSink σ] in
/-- A copy that waits for its source is none of those that an operation waits for. -/
theorem Merging.awaits (merging : Merging key salts crowd handed sent left) {name caller : Nat} {copy : Copy ρ}
    {operation : Operation} (among : crowd.callers.Perm (⟨name, .copying copy⟩ :: ⟨caller, .call operation⟩ :: others))
    (idle : copy.current = none) :
    Crew crowd.writer.lock (operation :: operations (others.map Caller.task)) := by
  have whole := merging.transit.crew.perm (operations_perm (among.map _))
  rw [List.map_cons, operations_suspended idle] at whole
  exact whole

/-- Callers that share a fresh writer, in any order of their steps, as long as none of their calls fails. When all calls
have come to their end, the plaintext consists of parts in one piece: those of each caller are what it handed over, in
its order, and those that were queued are all that are not queued still, in their order. While a copy waits for its
source, the lock and the line for it are others', and an operation that was called, at a sink that answers at once, is
ready exactly if it is its turn: in any case when the others have finished, to which they come without the copy. -/
theorem wire_merges (key : MasterKey) (salts : SaltSource) (sink : σ)
    (gathers : Gathers (fresh key salts sink) handed crowd) :
    (crowd.callers = [] → ∃ sent left,
        (Wire.decode key crowd.writer.sink.wire).2 = .whole ∧
          Wire.plaintext key crowd.writer.sink.wire = joined sent ∧
          (∀ name, partsOf (.caller name) sent = partsOf (.caller name) handed) ∧
          partsOf .queue sent ++ left = partsOf .queue handed ∧ joined left = crowd.writer.queued) ∧
      ∀ {name caller : Nat} {copy : Copy ρ} {operation : Operation} {others : List (Caller ρ)},
        crowd.callers.Perm (⟨name, .copying copy⟩ :: ⟨caller, .call operation⟩ :: others) → copy.current = none →
          crowd.writer.lock.line.Perm (tickets (operation :: operations (others.map Caller.task))) ∧
            (AlwaysReady crowd.writer.sink.sink →
              ((crowd.writer.poll operation).result.isReady ↔ crowd.writer.lock.holder = operation.stage.ticket?) ∧
                (tickets (operations (others.map Caller.task)) = [] → (crowd.writer.poll operation).result.isReady) ∧
                ∃ last, Shared.Attended ⟨crowd.writer, others.map Caller.task⟩ last ∧
                  (last.writer.poll operation).result.isReady) := by
  obtain ⟨sent, left, merging⟩ := gathers.merging (merging_fresh key salts sink)
  constructor
  · intro ended
    obtain ⟨whole, plaintext, callers⟩ := merging.shows ended
    exact ⟨sent, left, whole, plaintext, callers, merging.queue.symm, merging.queued⟩
  · intro name caller copy operation others among idle
    have crew := merging.awaits among idle
    refine ⟨crew.serves.line, ?_⟩
    rintro ⟨prompt, prompts, ready⟩
    have turn := crew.finished_iff_turn prompts.recorded ready
    refine ⟨turn, ?_, attended_ready prompts.recorded crew ready⟩
    intro finished
    exact turn.mpr (crew.turn_alone finished)

theorem wire_merges_script :
    let key : MasterKey := ⟨⟨"aes-128-gcm", "AEAD_AES_128_GCM", .aes128Gcm⟩, []⟩
    let first : Crowd Scripted.Source Scripted.Sink := fresh key (.random fun _ _ => 7) (.ofScript [] [] [] none)
    let copy : Copy Scripted.Source := .ofSource (.ofItems [] true)
    (∃ crowd sent left, Gathers first [⟨.queue, [1]⟩, ⟨.caller 0, [2]⟩] crowd ∧ crowd.callers = [] ∧
        Wire.plaintext key crowd.writer.sink.wire = joined sent ∧
        partsOf (.caller 0) sent = [⟨.caller 0, [2]⟩] ∧ partsOf .queue sent ++ left = [⟨.queue, [1]⟩]) ∧
      ∃ crowd, Gathers first [] crowd ∧ crowd.callers = [⟨1, .call (.ofRequest .flush)⟩, ⟨0, .copying copy⟩] ∧
        (crowd.writer.poll (.ofRequest .flush)).result.isReady := by
  intro key first copy
  have able : (SaltSource.random fun _ _ => 7).IsAble key := fun attempt => ⟨_, rfl⟩
  have isOpen : (Scripted.Sink.ofScript [] [] [] none).IsOpen := ⟨rfl, rfl, rfl, rfl⟩
  constructor
  · have queued : Gathers first [⟨.queue, [1]⟩] _ := Gathers.nothing.step (.enqueue [1])
    have called : Gathers first [⟨.queue, [1]⟩, ⟨.caller 0, [2]⟩] _ :=
      queued.step (.call 0 (.write [2]) (List.forall_mem_nil _))
    obtain ⟨sent, left, merging⟩ := called.merging (merging_fresh _ _ _)
    have finished : (((first.writer.enqueue [1]).poll (.ofRequest (.write [2]))).result).outcome = .finished :=
      (merging.transit.poll_behaves Scripted.Sink.behaves_isOpen rfl (Or.inr rfl) able isOpen).2
    have polled := called.step (.poll (.refl _) rfl (by rw [finished]; decide))
    have ended : ((first.writer.enqueue [1]).poll (.ofRequest (.write [2]))).left (.write [2]) = none :=
      SealedTunnel.Step.left_finished finished
    have resumed : (Task.call (.ofRequest (.write [2])) : Task Scripted.Source).resume
        ((first.writer.enqueue [1]).poll (.ofRequest (.write [2]))) = none := congrArg (Option.map Task.call) ended
    have nobody := congrArg (fun next => next.toList.map (Caller.mk 0) ++ []) resumed
    obtain ⟨sent, left, -, shown, callers, queue, -⟩ := (wire_merges _ _ _ polled).1 nobody
    exact ⟨_, sent, left, polled, nobody, shown, callers 0, queue⟩
  · have copying : Gathers first [] _ := Gathers.nothing.step (.copy 0 (.ofItems [] true) (List.forall_mem_nil _))
    have called : Gathers first [] _ := copying.step (.call 1 .flush (by decide))
    have ready := (wire_merges _ _ _ called).2 (List.Perm.swap _ _ _) rfl
    exact ⟨_, called, rfl, (ready.2 (Scripted.Sink.alwaysReady isOpen)).2.1 rfl⟩

end Crowd

end SealedTunnel
