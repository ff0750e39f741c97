import SealedTunnel.Proofs.Stream.Sealing
import SealedTunnel.Proofs.Wire.Cutting
import SealedTunnel.Stream.Reader

namespace SealedTunnel

namespace Wire

def plaintext (key : MasterKey) (bytes : Bytes) : Bytes := (decode key bytes).1.flatten

theorem plaintext_nil (key : MasterKey) : plaintext key [] = [] := rfl

theorem complete_isPrefix (payloads : List Bytes) (offset : Nat) : complete payloads offset <+: payloads := by
  fun_induction complete payloads offset with
  | case1 => exact List.prefix_rfl
  | case2 payload rest offset ended ih => exact (List.prefix_cons_inj payload).mpr ih
  | case3 => exact List.nil_prefix

theorem cut_isPrefix (saltSize : Nat) (payloads : List Bytes) (offset : Nat) :
    (cut saltSize payloads offset).1 <+: payloads := by
  unfold cut
  split
  · exact List.nil_prefix
  · split
    · exact List.nil_prefix
    · exact complete_isPrefix payloads _

end Wire

namespace Sealer

variable {key : MasterKey} {salts : SaltSource} {sealer : Sealer} {payloads : List Bytes} {bytes rest : Bytes}

theorem Wrote.decode_take (wrote : sealer.Wrote key salts payloads bytes) (offset : Nat)
    (inside : offset ≤ bytes.length) :
    Wire.decode key (bytes.take offset) = Wire.cut key.saltSize payloads offset := by
  cases wrote with
  | nothing _ _ _ _ none empty =>
      subst none empty
      cases Nat.le_zero.mp inside
      rfl
  | begun _ _ drawn ofSalt _ _ sendable encoded =>
      subst encoded
      exact Wire.decode_take _ payloads offset ofSalt (SaltSource.length_of_draw drawn) sendable inside

theorem Wrote.cut_all (wrote : sealer.Wrote key salts payloads bytes) :
    Wire.cut key.saltSize payloads bytes.length = (payloads, .whole) := by
  cases wrote with
  | nothing _ _ _ _ none empty =>
      subst none empty
      rfl
  | @begun session salt _ _ _ drawn _ _ _ _ encoded =>
      subst encoded
      have sized := SaltSource.length_of_draw drawn
      have some : salt ≠ [] := by
        have positive := Reader.saltSize_pos key
        rw [← sized] at positive
        exact List.length_pos_iff.mp positive
      rw [← sized]
      exact Wire.cut_all session salt payloads some

theorem Wrote.decode (wrote : sealer.Wrote key salts payloads bytes) : Wire.decode key bytes = (payloads, .whole) := by
  have decoded := wrote.decode_take bytes.length (Nat.le_refl _)
  rwa [List.take_length, wrote.cut_all] at decoded

theorem Wrote.plaintext (wrote : sealer.Wrote key salts payloads bytes) :
    Wire.plaintext key bytes = payloads.flatten := by
  rw [Wire.plaintext, wrote.decode]

theorem Wrote.plaintext_isPrefix (wrote : sealer.Wrote key salts payloads (bytes ++ rest)) :
    Wire.plaintext key bytes <+: payloads.flatten := by
  have decoded := wrote.decode_take bytes.length (by rw [List.length_append]; exact Nat.le_add_right _ _)
  rw [List.take_left] at decoded
  obtain ⟨more, whole⟩ := Wire.cut_isPrefix key.saltSize payloads bytes.length
  rw [Wire.plaintext, decoded]
  exact ⟨more.flatten, by rw [← List.flatten_append, whole]⟩

end Sealer
end SealedTunnel
