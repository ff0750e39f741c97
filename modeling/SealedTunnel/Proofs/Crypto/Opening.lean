import SealedTunnel.MasterKey

namespace SealedTunnel

namespace AeadKind

theorem sealLimit_le_openLimit (kind : AeadKind) : kind.sealLimit ≤ kind.openLimit := by
  cases kind <;> decide

theorem keySize_le (kind : AeadKind) : kind.keySize ≤ 32 := by
  cases kind <;> decide

end AeadKind

namespace Aead

theorem openParts_mask (aead : Aead) (nonce : Nonce) (plaintext : Bytes)
    (short : plaintext.length ≤ aead.kind.sealLimit) :
    aead.openParts nonce (aead.mask nonce plaintext) (aead.tag nonce (aead.mask nonce plaintext)) =
      .ok plaintext := by
  have fits : ¬ (aead.mask nonce plaintext).length > aead.kind.openLimit := by
    have limit := aead.kind.sealLimit_le_openLimit
    rw [length_mask]
    omega
  simp only [openParts, if_neg fits, if_true, mask_mask]

theorem openParts_split (aead : Aead) (nonce : Nonce) (message : Bytes) (length : Nat)
    (complete : message.length = length + tagSize) :
    aead.openParts nonce (message.take length) (message.drop length) = aead.decrypt nonce message := by
  have front : message.length - tagSize = length := by omega
  have tagged : ¬ message.length < tagSize := by omega
  rw [decrypt, if_neg tagged, front]

def message (aead : Aead) (nonce : Nonce) (plaintext : Bytes) : Bytes :=
  aead.mask nonce plaintext ++ aead.tag nonce (aead.mask nonce plaintext)

@[simp] theorem length_message (aead : Aead) (nonce : Nonce) (plaintext : Bytes) :
    (aead.message nonce plaintext).length = plaintext.length + tagSize := by
  simp [message]

theorem encrypt_eq (aead : Aead) (nonce : Nonce) (plaintext : Bytes)
    (short : plaintext.length ≤ aead.kind.sealLimit) :
    aead.encrypt nonce plaintext = .ok (aead.message nonce plaintext) := by
  simp only [encrypt, sealParts, if_neg (Nat.not_lt.mpr short)]
  rfl

theorem encrypt_long (aead : Aead) (nonce : Nonce) {plaintext : Bytes} (long : aead.kind.sealLimit < plaintext.length) :
    aead.encrypt nonce plaintext = .error (.crypto .sealing) := by
  simp only [encrypt, sealParts, if_pos long]
  rfl

theorem decrypt_message (aead : Aead) (nonce : Nonce) (plaintext : Bytes)
    (short : plaintext.length ≤ aead.kind.sealLimit) :
    aead.decrypt nonce (aead.message nonce plaintext) = .ok plaintext := by
  rw [← openParts_split aead nonce _ plaintext.length (by simp)]
  have front : (aead.message nonce plaintext).take plaintext.length = aead.mask nonce plaintext :=
    List.take_left' (by simp)
  have back : (aead.message nonce plaintext).drop plaintext.length =
      aead.tag nonce (aead.mask nonce plaintext) := List.drop_left' (by simp)
  rw [front, back, openParts_mask aead nonce plaintext short]

theorem encrypt_eq_ok (aead : Aead) (nonce : Nonce) {plaintext message : Bytes} :
    aead.encrypt nonce plaintext = .ok message ↔
      plaintext.length ≤ aead.kind.sealLimit ∧ message = aead.message nonce plaintext := by
  by_cases short : plaintext.length ≤ aead.kind.sealLimit
  · rw [aead.encrypt_eq nonce plaintext short]
    constructor
    · intro same
      exact ⟨short, (Except.ok.inj same).symm⟩
    · rintro ⟨-, rfl⟩
      rfl
  · rw [aead.encrypt_long nonce (Nat.not_le.mp short)]
    constructor
    · intro made
      cases made
    · intro made
      exact absurd made.1 short

theorem openParts_eq_ok (aead : Aead) (nonce : Nonce) {hidden tag plaintext : Bytes} :
    aead.openParts nonce hidden tag = .ok plaintext ↔
      plaintext.length ≤ aead.kind.openLimit ∧ hidden = aead.mask nonce plaintext ∧
        tag = aead.tag nonce hidden := by
  unfold openParts
  constructor
  · intro opened
    split at opened
    · cases opened
    · rename_i short
      split at opened
      · rename_i tagged
        cases opened
        rw [length_mask, mask_mask]
        exact ⟨Nat.not_lt.mp short, rfl, tagged⟩
      · cases opened
  · rintro ⟨short, rfl, tagged⟩
    rw [if_neg (Nat.not_lt.mpr (by rwa [length_mask])), if_pos tagged, mask_mask]

theorem openParts_error {aead : Aead} {nonce : Nonce} {hidden tag : Bytes} {fault : Fault}
    (refused : aead.openParts nonce hidden tag = .error fault) : fault = .decryption := by
  unfold openParts at refused
  split at refused
  · exact (Except.error.inj refused).symm
  · split at refused
    · cases refused
    · exact (Except.error.inj refused).symm

end Aead

namespace MasterKey

theorem session_ok (key : MasterKey) (salt : Bytes) : ∃ session, key.session salt = .ok session := by
  have short : ¬ key.spec.keySize > Digest.expandLimit := by
    have size := key.spec.kind.keySize_le
    change ¬ key.spec.kind.keySize > 255 * 20
    omega
  obtain ⟨subkey, expanded⟩ : ∃ subkey, Digest.expand? (Digest.extract (some salt) key.secret)
      KeyDerivation.sessionInfo key.spec.keySize = some subkey := by
    unfold Digest.expand?
    exact ⟨_, if_neg short⟩
  have length := Digest.length_of_expand? expanded
  have fits : ¬ subkey.length ≠ key.spec.keySize := by simp [length]
  refine ⟨⟨key.spec.kind, subkey, length⟩, ?_⟩
  simp only [session, KeyDerivation.sessionKey, KeyDerivation.expand, expanded]
  change (if subkey.length ≠ key.spec.keySize then _ else _) = _
  rw [if_neg fits]
  exact dif_pos length

theorem kind_session {key : MasterKey} {salt : Bytes} {session : Aead} (ofSalt : key.session salt = .ok session) :
    session.kind = key.spec.kind := by
  unfold MasterKey.session at ofSalt
  cases derived : KeyDerivation.sessionKey key.secret salt key.spec.keySize with
  | error fault =>
      rw [derived] at ofSalt
      cases ofSalt
  | ok subkey =>
      rw [derived] at ofSalt
      change (if subkey.length ≠ key.spec.keySize then _ else _) = _ at ofSalt
      split at ofSalt
      · cases ofSalt
      · change Aead.ofKey key.spec.kind subkey = _ at ofSalt
        unfold Aead.ofKey at ofSalt
        split at ofSalt
        · cases ofSalt
          rfl
        · cases ofSalt

end MasterKey
end SealedTunnel
