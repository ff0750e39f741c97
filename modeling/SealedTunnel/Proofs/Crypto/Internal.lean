import SealedTunnel.Proofs.AccessKey.Forms
import SealedTunnel.Proofs.Datagram.Buffers
import SealedTunnel.Proofs.Scripted.Sink
import SealedTunnel.Proofs.Stream.Raising
import SealedTunnel.Scripted.Source

namespace SealedTunnel

/-- A fault inside the ciphers, which nothing that is put in should cause. -/
def Fault.isInternal : Fault → Bool
  | crypto _ => true
  | _ => false

def IoError.isInternal : IoError → Bool
  | fault _ cause => cause.isInternal
  | _ => false

theorem Writer.Own.not_internal {error : IoError} (own : Writer.Own error) : error.isInternal = false := by
  rcases own with rfl | ⟨cause, rfl⟩ <;> rfl

theorem Reader.Own.not_internal {error : IoError} (own : Reader.Own error) : error.isInternal = false := by
  rcases own with rfl | rfl <;> rfl

namespace Packet

variable {key : MasterKey} {salts : SaltSource} {plaintext packet buffer : Bytes} {length : Nat} {fault : Fault}

theorem build_sealable (short : plaintext.length ≤ key.spec.kind.sealLimit)
    (refused : build key salts plaintext = .error fault) : ∃ cause, fault = .salt cause := by
  cases drawn : salts.draw 0 key.saltSize with
  | error cause =>
      cases (build_undrawn drawn).symm.trans refused
      exact SaltSource.fault_of_draw drawn
  | ok salt =>
      obtain ⟨packet, built⟩ := (exists_build drawn).mpr short
      cases built.symm.trans refused

theorem pack_error (short : plaintext.length ≤ key.spec.kind.sealLimit)
    (refused : (pack key salts plaintext buffer).result = .error fault) : fault.isInternal = false := by
  rcases Nat.lt_or_ge buffer.length (plaintext.length + overhead key) with narrow | roomy
  · rw [pack_short narrow] at refused
    cases refused
    rfl
  · rw [result_pack roomy] at refused
    obtain ⟨cause, rfl⟩ := build_sealable short refused
    rfl

theorem packInPlace_error (short : length ≤ key.spec.kind.sealLimit)
    (refused : (packInPlace key salts length buffer).result = .error fault) : fault.isInternal = false := by
  rcases Nat.lt_or_ge buffer.length (length + overhead key) with narrow | roomy
  · rw [packInPlace, checkRoom_short narrow] at refused
    cases refused
    rfl
  · rw [result_packInPlace roomy] at refused
    have sealable := Nat.le_trans (List.length_take_le length (buffer.drop key.saltSize)) short
    obtain ⟨cause, rfl⟩ := build_sealable sealable refused
    rfl

theorem reveal_error (refused : reveal key packet = .error fault) : fault.isInternal = false := by
  rcases Nat.lt_or_ge packet.length (overhead key) with short | long
  · cases (reveal_short short).symm.trans refused
    rfl
  · obtain ⟨size, sized⟩ := Nat.exists_eq_add_of_le' long
    obtain ⟨session, -, revealed⟩ := reveal_long sized
    cases Aead.openParts_error (revealed.symm.trans refused)
    rfl

theorem unpack_error (refused : (unpack key packet buffer).result = .error fault) : fault.isInternal = false := by
  rcases Nat.lt_or_ge (buffer.length + overhead key) packet.length with narrow | roomy
  · obtain ⟨size, sized⟩ := Nat.exists_eq_add_of_le' (Nat.le_trans (Nat.le_add_left _ _) (Nat.le_of_lt narrow))
    rw [unpack_narrow sized (by omega)] at refused
    cases refused
    rfl
  · exact reveal_error ((result_unpack roomy).symm.trans refused)

end Packet

namespace MasterKey

variable {ρ σ : Type} [ByteSource ρ] [ByteSink σ]

/-- Every secret makes a key of a registered cipher, and every salt of any length a session of it. Wherever a writer with
this key has come to, what it or a copy into it tells of the ciphers has been thrown by the sink or the source; so it is
with a reader. To pack a payload of proper size and to unpack whatever came is never refused for a fault inside the
ciphers. -/
theorem nothing_internal {spec : CipherSpec} {name : String} (registered : spec ∈ CipherSpec.registry)
    (called : spec.isCalled name) (secret : String) :
    ∃ key, ofSecret name secret = .ok key ∧
      (∀ salt, ∃ session, key.session salt = .ok session) ∧
      (∀ (sources : SaltSource → Prop) (salts : SaltSource) (sink : σ) (notes : List Note) (shared : Shared ρ σ),
        Shared.Run sources (.fresh key salts sink) notes shared →
          (∀ operation error, (shared.writer.poll operation).result.failure? = some error → error.isInternal →
            Throws ByteSink.Call shared.writer.sink.sink error) ∧
          ∀ (copy : Copy ρ) error, (copy.poll shared.writer).1.failure? = some error → error.isInternal →
            Throws ByteSink.Call shared.writer.sink.sink error ∨ Throws ByteSource.Call copy.source error) ∧
      (∀ reader : Reader ρ, reader.Reached key → ∀ room error, (reader.poll room).1.failure? = some error →
        error.isInternal → Throws ByteSource.Call reader.source error) ∧
      (∀ salts plaintext buffer fault, plaintext.length ≤ spec.kind.sealLimit →
        (Packet.pack key salts plaintext buffer).result = .error fault → fault.isInternal = false) ∧
      (∀ salts length buffer fault, length ≤ spec.kind.sealLimit →
        (Packet.packInPlace key salts length buffer).result = .error fault → fault.isInternal = false) ∧
      (∀ packet buffer fault, (Packet.unpack key packet buffer).result = .error fault → fault.isInternal = false) ∧
      ∀ packet fault, (Packet.unpackInPlace key packet).result = .error fault → fault.isInternal = false := by
  refine ⟨_, ofSecret_called registered called secret, session_ok _, ?_, ?_, ?_, ?_, ?_, ?_⟩
  · intro sources salts sink notes shared run
    constructor
    · intro operation error failed internal
      rcases (shared.writer.poll_relays operation).blames error failed with own | thrown
      · exact absurd (own.not_internal.symm.trans internal) (by decide)
      · exact Recorded.throws thrown
    · intro copy error failed internal
      rcases copy.poll_error shared.writer failed with own | thrown | thrown
      · exact absurd (own.not_internal.symm.trans internal) (by decide)
      · exact Or.inl (Recorded.throws thrown)
      · exact Or.inr thrown
  · intro reader reached room error failed internal
    rcases (reader.poll_relays reached.hasSession room).1.blames error failed with own | thrown
    · exact absurd (own.not_internal.symm.trans internal) (by decide)
    · exact thrown
  · intro salts plaintext buffer fault short refused
    exact Packet.pack_error short refused
  · intro salts length buffer fault short refused
    exact Packet.packInPlace_error short refused
  · intro packet buffer fault refused
    exact Packet.unpack_error refused
  · intro packet fault refused
    exact Packet.reveal_error (Packet.result_unpackInPlace.symm.trans refused)

theorem nothing_internal_unsalted :
    ∃ key, ofSecret "aead_AES_192_gcm" "" = .ok key ∧ (∃ session, key.session [] = .ok session) ∧
      (∀ operation error,
        ((Writer.fresh key (.fixed []) (⟨.ofScript [.yield, .accept 3] [.yield] [] none, []⟩ : Recorded Scripted.Sink)).poll
          operation).result.failure? = some error → error.isInternal = false) ∧
      ∀ buffer fault, (Packet.pack key (.fixed []) [1, 2] buffer).result = .error fault → fault.isInternal = false := by
  obtain ⟨key, made, sessions, writers, -, packing, -⟩ :=
    @nothing_internal Scripted.Source Scripted.Sink _ _ ⟨"aes-192-gcm", "AEAD_AES_192_GCM", .aes192Gcm⟩ "aead_AES_192_gcm"
      (by decide) (by decide) ""
  have steady : (Scripted.Sink.ofScript [.yield, .accept 3] [.yield] [] none).IsSteady :=
    ⟨by decide, by decide, by decide⟩
  refine ⟨key, made, sessions [], ?_, fun buffer fault => packing _ _ buffer fault (by decide)⟩
  intro operation error failed
  obtain ⟨fine, -⟩ := writers (fun _ => True) (.fixed []) (.ofScript [.yield, .accept 3] [.yield] [] none) [] _ .nothing
  cases internal : error.isInternal with
  | false => rfl
  | true =>
      exact absurd (fine operation error failed internal) (Steady.throws_nothing Scripted.Sink.steady_isSteady steady error)

end MasterKey

end SealedTunnel
