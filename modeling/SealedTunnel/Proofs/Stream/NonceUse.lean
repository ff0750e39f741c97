import SealedTunnel.Proofs.Stream.Sharing
import SealedTunnel.Scripted.Sink
import SealedTunnel.Scripted.Source

namespace SealedTunnel

/-- What must never be the same for two seals. -/
def Seal.use (made : Seal) : Bytes × Nonce := (made.session.key, made.nonce)

namespace Wire

theorem seals_append (session : Aead) (count : Nat) (first second : List Bytes) :
    seals session count (first ++ second) =
      seals session count first ++ seals session (count + 2 * first.length) second := by
  induction first generalizing count with
  | nil => rfl
  | cons payload rest ih =>
      have counted : count + 2 + 2 * rest.length = count + 2 * (payload :: rest).length := by
        simp only [List.length_cons]
        omega
      simp only [List.cons_append, seals, ih, counted]

theorem uses_seals (session : Aead) (count : Nat) (payloads : List Bytes) :
    (seals session count payloads).map Seal.use =
      (List.range' count (2 * payloads.length)).map fun index => (session.key, Nonce.ofNat index) := by
  induction payloads generalizing count with
  | nil => rfl
  | cons payload rest ih =>
      have longer : 2 * (payload :: rest).length = 2 * rest.length + 1 + 1 := by
        simp only [List.length_cons]
        omega
      simp only [seals, List.map_cons, ih, longer, List.range'_succ]
      rfl

theorem session_seals {session : Aead} {count : Nat} {payloads : List Bytes} {made : Seal}
    (member : made ∈ seals session count payloads) : made.session = session := by
  induction payloads generalizing count with
  | nil => cases member
  | cons payload rest ih =>
      rcases List.mem_cons.mp member with rfl | member
      · rfl
      · rcases List.mem_cons.mp member with rfl | member
        · rfl
        · exact ih member

end Wire

namespace Sealer

/-- What the notes so far say of the salts that a sealer was given and of its seals. -/
inductive Tally (key : MasterKey) (notes : List Note) (sealer : Sealer) : Prop
  | unbegun (ofKey : sealer.key = key) (none : sealer.session = none) (nonce : sealer.nonce = .zero)
      (unsalted : saltsIn notes = []) (unsealed : sealsIn notes = [])
  | begun {session : Aead} {salt : Bytes} {payloads : List Bytes} (ofKey : sealer.key = key)
      (ofSalt : key.session salt = .ok session) (begun : sealer.session = some session)
      (nonce : sealer.nonce = .ofNat (2 * payloads.length)) (salted : saltsIn notes = [salt])
      (sealed : sealsIn notes = Wire.seals session 0 payloads)

variable {key : MasterKey} {notes more : List Note} {sealer : Sealer}

theorem tally_fresh (key : MasterKey) (source : SaltSource) : Tally key [] (fresh key source) :=
  .unbegun rfl rfl rfl rfl rfl

/-- Whoever yields the salts, and however often one was asked for in vain. -/
theorem Tally.others {other : Sealer} (tally : sealer.Tally key notes) (ofKey : other.key = sealer.key)
    (session : other.session = sealer.session) (nonce : other.nonce = sealer.nonce) (unsalted : saltsIn more = [])
    (unsealed : sealsIn more = []) : other.Tally key (notes ++ more) := by
  cases tally with
  | unbegun same none zero noSalts noSeals =>
      refine .unbegun (ofKey.trans same) (session.trans none) (nonce.trans zero) ?_ ?_
      · rw [saltsIn_append, noSalts, unsalted, List.append_nil]
      · rw [sealsIn_append, noSeals, unsealed, List.append_nil]
  | begun same ofSalt some counted salted sealed =>
      refine .begun (ofKey.trans same) ofSalt (session.trans some) (nonce.trans counted) ?_ ?_
      · rw [saltsIn_append, salted, unsalted, List.append_nil]
      · rw [sealsIn_append, sealed, unsealed, List.append_nil]

theorem Tally.sealData (tally : sealer.Tally key notes) (data : Bytes) :
    (sealer.sealData data).2.Tally key (notes ++ (sealer.sealDataNoted data).notes) := by
  have pieces := Wire.sendable_pieces data
  cases tally with
  | unbegun ofKey none zero noSalts noSeals =>
      have nonce := zero.trans Nonce.zero_eq_ofNat
      cases drawn : sealer.salts.draw sealer.attempts sealer.key.saltSize with
      | error fault =>
          rw [sealData_unsalted none drawn, notes_sealDataNoted_unsalted none drawn]
          exact Tally.others (.unbegun ofKey none zero noSalts noSeals) rfl rfl rfl rfl rfl
      | ok salt =>
          obtain ⟨session, ofSalt⟩ := sealer.key.session_ok salt
          rw [sealData_first none nonce drawn ofSalt, notes_sealDataNoted_first none nonce drawn ofSalt]
          rw [ofKey] at ofSalt
          refine .begun ofKey ofSalt rfl (congrArg Nonce.ofNat (Nat.zero_add _)) ?_ ?_
          · rw [saltsIn_append, noSalts, List.nil_append]
            exact congrArg (salt :: ·) (saltsIn_sealed _)
          · rw [sealsIn_append, noSeals, List.nil_append]
            exact sealsIn_sealed _
  | @begun session salt payloads ofKey ofSalt begun counted salted sealed =>
      rw [sealData_begun begun counted, notes_sealDataNoted_begun begun counted]
      have salts : ∀ made : List Seal, saltsIn (notes ++ made.map .sealed) = [salt] := by
        intro made
        rw [saltsIn_append, salted, saltsIn_sealed, List.append_nil]
      have seals : sealsIn (notes ++ (Wire.seals session (2 * payloads.length) (data.pieces Wire.longestPayload)).map
          .sealed) = Wire.seals session 0 (payloads ++ data.pieces Wire.longestPayload) := by
        rw [sealsIn_append, sealed, sealsIn_sealed, Wire.seals_append, Nat.zero_add]
      refine .begun ofKey ofSalt begun ?_ (salts _) seals
      rw [List.length_append, Nat.mul_add]

end Sealer

section Steps

variable {σ : Type} (key : MasterKey) (notes : List Note)

def Noted.Tallies (noted : Noted (Step σ)) : Prop := noted.value.writer.sealer.Tally key (notes ++ noted.notes)

variable {key notes} [ByteSink σ] {writer : Writer σ} {request : Request} {ticket : Ticket} {operation : Operation}

omit [ByteSink σ] in
theorem tallies_pure {step : Step σ} (tally : step.writer.sealer.Tally key notes) :
    Noted.Tallies key notes (pure step) := by
  rw [Noted.Tallies, Noted.notes_pure, List.append_nil]
  exact tally

namespace Writer

theorem finish_tallies (tally : writer.sealer.Tally key notes) :
    Noted.Tallies key notes (pure (writer.finish request ticket)) := by
  refine tallies_pure ?_
  rw [sealer_finish]
  exact tally

theorem sendNoted_tallies (tally : writer.sealer.Tally key notes) (rest : Bytes) :
    (writer.sendNoted request ticket rest).Tallies key notes := by
  unfold sendNoted
  obtain ⟨(error | done) | reason, left, sink⟩ := drain .stuck writer.sink rest
  · exact tally.others rfl rfl rfl rfl rfl
  · exact finish_tallies tally
  · exact tallies_pure tally

theorem startNoted_tallies (tally : writer.sealer.Tally key notes) :
    (writer.startNoted request ticket).Tallies key notes := by
  unfold startNoted
  by_cases empty : (writer.queued ++ request.data).isEmpty
  · rw [if_pos empty]
    exact finish_tallies tally
  · rw [if_neg empty]
    have sealed := tally.sealData (writer.queued ++ request.data)
    rw [Noted.Tallies, Noted.value_bind, Noted.notes_bind, ← List.append_assoc, Sealer.value_sealDataNoted]
    dsimp only
    generalize writer.sealer.sealData (writer.queued ++ request.data) = made at sealed
    obtain ⟨fault | bytes, sealer⟩ := made
    · exact tallies_pure sealed
    · exact sendNoted_tallies sealed bytes

theorem pollNoted_tallies (tally : writer.sealer.Tally key notes) (operation : Operation) :
    (writer.pollNoted operation).Tallies key notes := by
  unfold pollNoted
  cases operation.stage with
  | unstarted =>
      dsimp only
      split
      · exact startNoted_tallies tally
      · exact tallies_pure tally
  | waiting ticket =>
      dsimp only
      split
      · exact startNoted_tallies tally
      · exact tallies_pure tally
  | sending ticket rest => exact sendNoted_tallies tally rest
  | finishing ticket => exact finish_tallies tally
  | finished => exact tallies_pure tally

omit [ByteSink σ] in
theorem cancelNoted_tally (tally : writer.sealer.Tally key notes) (operation : Operation) :
    (writer.cancel operation).sealer.Tally key (notes ++ (writer.cancelNoted operation).notes) := by
  unfold cancel cancelNoted
  cases operation.stage with
  | unstarted | waiting | sending | finishing | finished => exact tally.others rfl rfl rfl rfl rfl

end Writer
end Steps

namespace Shared

variable {ρ σ : Type} [ByteSource ρ] [ByteSink σ] {key : MasterKey} {source : SaltSource} {sink : σ}
  {last : Shared ρ σ} {notes : List Note}

theorem keeps_tally (key : MasterKey) :
    Keeps (fun _ => True) fun notes (writer : Writer (Recorded σ)) _ => writer.sealer.Tally key notes where
  perm := fun tally _ => tally
  enqueue := fun _ tally => tally
  add := fun _ tally => tally
  poll := by
    intro notes writer operation others tally
    have polled := Writer.pollNoted_tallies tally operation
    rwa [Noted.Tallies, Writer.value_pollNoted] at polled
  cancel := fun tally => Writer.cancelNoted_tally tally _
  sink := fun _ tally => tally
  salts := by
    intro notes writer operations salts _ tally
    have same : Sealer.Tally key (notes ++ []) { writer.sealer with salts } := tally.others rfl rfl rfl rfl rfl
    rwa [List.append_nil] at same

/-- Tasks at a fresh writer, whatever they do, whatever fails and wherever they are dropped, while another source of
salts may take over at any time. One salt at most is obtained, the seals are made under its session and the nonces
from zero on, and as long as there are nonces, none is used twice. -/
theorem seals_count_up (run : Run (fun _ => True) (fresh key source sink) notes last) :
    (saltsIn notes).length ≤ 1 ∧
      (∀ index made, (sealsIn notes)[index]? = some made →
        ∃ salt, saltsIn notes = [salt] ∧ key.session salt = .ok made.session ∧
          made.nonce.bytes = Bytes.ofNatLE nonceSize index) ∧
      ((sealsIn notes).length ≤ Nat.pow 2 96 → ((sealsIn notes).map Seal.use).Nodup) := by
  have tally := (keeps_tally key).run run (Sealer.tally_fresh key source)
  cases tally with
  | unbegun _ _ _ noSalts noSeals =>
      rw [noSalts, noSeals]
      refine ⟨Nat.zero_le 1, ?_, fun _ => List.nodup_nil⟩
      intro index made got
      cases got
  | @begun session salt payloads _ ofSalt _ _ salted sealed =>
      have uses := Wire.uses_seals session 0 payloads
      have length := congrArg List.length uses
      rw [List.length_map, List.length_map, List.length_range'] at length
      rw [salted, sealed]
      refine ⟨Nat.le_refl 1, ?_, ?_⟩
      · intro index made got
        obtain ⟨inside, -⟩ := List.getElem?_eq_some_iff.mp got
        have same := Wire.session_seals (List.mem_of_getElem? got)
        have used := congrArg (·[index]?) uses
        rw [List.getElem?_map, got, List.getElem?_map, List.getElem?_range' (length ▸ inside), Nat.zero_add,
          Nat.one_mul] at used
        have nonce := congrArg Prod.snd (Option.some.inj used)
        exact ⟨salt, rfl, same ▸ ofSalt, congrArg Nonce.bytes nonce⟩
      · intro enough
        rw [uses]
        have indices : (List.range' 0 (2 * payloads.length)).Nodup := List.nodup_range'
        refine List.pairwise_map.mpr (List.Pairwise.imp_of_mem ?_ indices)
        intro first second one two apart same
        rw [length] at enough
        have below := (List.mem_range'_1.mp one).2
        have under := (List.mem_range'_1.mp two).2
        exact apart (Nonce.ofNat_inj (by omega) (by omega) (congrArg Prod.snd same))

theorem seals_count_up_script :
    let key : MasterKey := ⟨⟨"aes-128-gcm", "AEAD_AES_128_GCM", .aes128Gcm⟩, []⟩
    let first : Shared Scripted.Source Scripted.Sink := fresh key (.fixed []) (.ofScript [.accept 20, .yield] [] [] none)
    ∃ notes last, Run (fun _ => True) first notes last ∧ (saltsIn notes).length ≤ 1 ∧
      ((sealsIn notes).length ≤ Nat.pow 2 96 → ((sealsIn notes).map Seal.use).Nodup) := by
  intro key first
  have called : Run (fun _ => True) first _ _ := Run.nothing.step (.call (.write [1]))
  have refused := called.step (.poll (.refl _) rfl)
  have able := refused.step (.salts (.random fun _ _ => 7) trivial)
  have flushing := able.step (.call .flush)
  have copying := flushing.step (.copy (.ofBytes [2, 3]))
  have fetched := copying.step (.fetch (.refl _) rfl)
  have sending := fetched.step (.poll (.refl _) rfl)
  have dropped := sending.step (.drop List.perm_append_comm)
  obtain ⟨salts, -, distinct⟩ := seals_count_up dropped
  exact ⟨_, _, dropped, salts, distinct⟩

end Shared
end SealedTunnel
