import SealedTunnel.Proofs.Stream.Flow
import SealedTunnel.Proofs.Stream.Plaintext
import SealedTunnel.Proofs.Stream.Settling

/-!
What is on the wire at any moment, over a sink that does not fail: the beginning of an encoding of the data
accepted so far, or nothing if no salt can be had.
-/
namespace SealedTunnel

namespace Wire

def Begins (key : MasterKey) (data bytes : Bytes) : Prop :=
  ∃ salt payloads whole, salt.length = key.saltSize ∧ Sendable payloads ∧ payloads.flatten = data ∧
    encode key salt payloads = .ok whole ∧ bytes <+: whole

theorem begins_nil (key : MasterKey) (data : Bytes) : Begins key data [] := by
  obtain ⟨session, ofSalt⟩ := key.session_ok (List.replicate key.saltSize 0)
  have sendable := sendable_pieces data
  exact ⟨_, _, _, List.length_replicate, sendable, flatten_pieces_longest data, encode_eq ofSalt sendable,
    List.nil_prefix⟩

theorem Begins.plaintext_isPrefix {key : MasterKey} {data bytes : Bytes} (begins : Begins key data bytes) :
    plaintext key bytes <+: data := by
  obtain ⟨salt, payloads, whole, sized, sendable, rfl, encoded, rest, joined⟩ := begins
  obtain ⟨session, ofSalt⟩ := key.session_ok salt
  rw [encode_eq ofSalt sendable, ← joined] at encoded
  have stream := Except.ok.inj encoded
  have inside : bytes.length ≤ (salt ++ frames session 0 payloads).length := by simp [stream]
  have decoded := decode_take session payloads bytes.length ofSalt sized sendable inside
  rw [stream, List.take_left] at decoded
  obtain ⟨more, all⟩ := cut_isPrefix key.saltSize payloads bytes.length
  rw [plaintext, decoded]
  exact ⟨more.flatten, by rw [← List.flatten_append, all]⟩

end Wire

theorem Sealer.Wrote.begins {key : MasterKey} {salts : SaltSource} {sealer : Sealer} {payloads : List Bytes}
    {bytes rest : Bytes} (wrote : sealer.Wrote key salts payloads (bytes ++ rest)) (later : Bytes) :
    Wire.Begins key (payloads.flatten ++ later) bytes := by
  cases wrote with
  | nothing _ _ _ _ _ empty =>
      rw [(List.append_eq_nil_iff.mp empty).1]
      exact Wire.begins_nil key _
  | begun _ _ drawn ofSalt _ _ sendable encoded =>
      have all := sendable.append (Wire.sendable_pieces later)
      refine ⟨_, _, _, SaltSource.length_of_draw drawn, all, ?_, Wire.encode_eq ofSalt all, ?_⟩
      · rw [List.flatten_append, Wire.flatten_pieces_longest]
      · rw [Wire.frames_append, ← List.append_assoc, ← encoded, List.append_assoc]
        exact List.prefix_append _ _

section Delivery

variable {σ : Type} [ByteSink σ]

theorem shares_queued :
    Shares fun (writer : Writer σ) (_ : Option Operation) (_ : List Operation) (_ : Bytes) => writer.queued = [] where
  perm := fun none _ => none
  add := fun _ _ none => none
  accept := fun _ none => none
  first := fun none => Writer.queued_poll _ none
  failed := fun none _ _ => Writer.queued_poll _ none
  other := fun none => Writer.queued_poll _ none

theorem shares_tidy :
    Shares fun (writer : Writer σ) (accepted : Option Operation) (others : List Operation) (_ : Bytes) =>
      Tidy writer (accepted.toList ++ others) :=
  .of_all Tidy.perm Tidy.add Tidy.poll

theorem Duplex.queued_pollShutdown {ρ : Type} {stream : Duplex ρ σ} {behind : List Operation}
    (tidy : Tidy stream.writer (stream.inFlight.toList ++ stream.others behind))
    (finished : stream.pollShutdown.1.outcome = .finished) :
    stream.pollShutdown.2.writer.queued = [] ∧ ∀ operation ∈ behind, operation.stage.isActive = false := by
  refine ⟨Slot.shutdown.queued_poll tidy finished, ?_⟩
  have ended := Slot.shutdown.ended_poll tidy.crew finished
  exact fun operation mem => ended.idle operation (List.mem_append_right _ (List.mem_append_right _ mem))

/-- An accepted write and other operations, which bring no data, on their way to a sink. -/
structure Underway (key : MasterKey) (salts : SaltSource) (good : σ → Prop) (writer : Writer (Recorded σ))
    (accepted : Option Operation) (others : List Operation) (total : Bytes) : Prop where
  flowing : ∃ content, Flowing key salts writer (accepted.toList ++ others) content ∧
    content ++ unsealed accepted.toList = total
  bare : ∀ operation ∈ others, operation.request.data = []
  here : good writer.sink.sink

variable {key : MasterKey} {salts : SaltSource} {good : σ → Prop} {writer : Writer (Recorded σ)}
  {operation : Operation} {accepted : Option Operation} {others : List Operation} {total : Bytes}

omit [ByteSink σ] in
theorem Underway.tidy (underway : Underway key salts good writer accepted others total) :
    Tidy writer (accepted.toList ++ others) := by
  obtain ⟨content, flowing, -⟩ := underway.flowing
  exact flowing.tidy

omit [ByteSink σ] in
theorem Underway.laden (underway : Underway key salts good writer accepted others total) :
    Laden key salts good writer accepted others total := by
  obtain ⟨⟨content, flowing, same⟩, bare, here⟩ := underway
  exact ⟨⟨content, flowing.transit, same⟩, bare, here⟩

omit [ByteSink σ] in
theorem Laden.underway (laden : Laden key salts good writer accepted others total)
    (tidy : Tidy writer (accepted.toList ++ others)) : Underway key salts good writer accepted others total := by
  obtain ⟨⟨content, transit, same⟩, bare, here⟩ := laden
  exact ⟨⟨content, .of_transit tidy transit, same⟩, bare, here⟩

omit [ByteSink σ] in
theorem Underway.perm {same : List Operation} (underway : Underway key salts good writer accepted others total)
    (perm : others.Perm same) : Underway key salts good writer accepted same total :=
  (underway.laden.perm perm).underway (underway.tidy.perm (perm.append_left _))

omit [ByteSink σ] in
theorem Underway.add (underway : Underway key salts good writer accepted others total) {request : Request}
    (bare : request.data = []) : Underway key salts good writer accepted (.ofRequest request :: others) total :=
  (underway.laden.add bare).underway ((underway.tidy.add request).perm List.perm_middle.symm)

omit [ByteSink σ] in
theorem Underway.accept (underway : Underway key salts good writer none others total) (data : Bytes) :
    Underway key salts good writer (some (.ofRequest (.write data))) others (total ++ data) :=
  (underway.laden.accept data).underway (underway.tidy.add (.write data))

structure Unsalted (writer : Writer (Recorded σ)) (operations : List Operation) : Prop where
  mute : writer.sealer.Mute
  wire : writer.sink.wire = []
  rest : ∀ operation ∈ operations, operation.stage.rest = []

omit [ByteSink σ] in
theorem Unsalted.perm {same : List Operation} (unsalted : Unsalted writer others) (perm : others.Perm same) :
    Unsalted writer same :=
  ⟨unsalted.mute, unsalted.wire, fun operation mem => unsalted.rest operation (perm.mem_iff.mpr mem)⟩

omit [ByteSink σ] in
theorem Unsalted.add (unsalted : Unsalted writer others) (request : Request) :
    Unsalted writer (.ofRequest request :: others) :=
  ⟨unsalted.mute, unsalted.wire, List.forall_mem_cons.mpr ⟨rfl, unsalted.rest⟩⟩

theorem Unsalted.poll (unsalted : Unsalted writer (operation :: others)) :
    Unsalted (writer.poll operation).writer (((writer.poll operation).left operation.request).toList ++ others) := by
  obtain ⟨mute, wire, rest⟩ := unsalted
  have quiet := writer.poll_quiet operation (rest operation List.mem_cons_self) (Or.inr mute)
  refine ⟨quiet.mute mute, quiet.wire.trans wire, ?_⟩
  intro later mem
  rcases List.mem_append.mp mem with mem | mem
  · rw [Step.eq_of_mem_left mem]
    exact quiet.rest
  · exact rest later (List.mem_cons_of_mem _ mem)

theorem shares_unsalted :
    Shares fun (writer : Writer (Recorded σ)) (accepted : Option Operation) (others : List Operation) (_ : Bytes) =>
      Unsalted writer (accepted.toList ++ others) :=
  .of_all Unsalted.perm Unsalted.add Unsalted.poll

omit [ByteSink σ] in
theorem Underway.begins (underway : Underway key salts good writer accepted others total) (later : Bytes) :
    Wire.Begins key (total ++ later) writer.sink.wire := by
  obtain ⟨⟨content, flowing, whole⟩, -, -⟩ := underway
  obtain ⟨rest, ⟨payloads, wrote, same⟩, -⟩ := flowing.flow
  rw [← whole, ← same, List.append_assoc, List.append_assoc]
  exact wrote.begins _

end Delivery
end SealedTunnel
