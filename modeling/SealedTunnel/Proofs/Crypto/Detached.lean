import SealedTunnel.Proofs.Crypto.Opening

namespace SealedTunnel

namespace Aead

section InPlace

variable (aead : Aead) (nonce : Nonce) {plaintext hidden tag : Bytes} {fault : Fault}

theorem sealInPlace_eq (short : plaintext.length ≤ aead.kind.sealLimit) :
    aead.sealInPlace nonce plaintext =
      (.ok (aead.tag nonce (aead.mask nonce plaintext)), aead.mask nonce plaintext) := by
  rw [sealInPlace, sealParts, if_neg (Nat.not_lt.mpr short)]

theorem sealInPlace_long (long : aead.kind.sealLimit < plaintext.length) :
    aead.sealInPlace nonce plaintext = (.error (.crypto .sealing), plaintext) := by
  rw [sealInPlace, sealParts, if_pos long]

theorem length_of_openParts (opened : aead.openParts nonce hidden tag = .ok plaintext) : tag.length = tagSize := by
  obtain ⟨-, -, tagged⟩ := (aead.openParts_eq_ok nonce).mp opened
  rw [tagged, length_tag]

theorem openInPlace_cases (hidden tag : Bytes) :
    (∃ plaintext, aead.openParts nonce hidden tag = .ok plaintext ∧
        aead.openInPlace nonce hidden tag = (.ok (), plaintext)) ∨
      (aead.openParts nonce hidden tag = .error .decryption ∧
        aead.openInPlace nonce hidden tag = (.error .decryption, hidden)) := by
  unfold openInPlace
  cases opened : aead.openParts nonce hidden tag with
  | ok plaintext =>
      have tagged : ¬ tag.length ≠ tagSize := not_not_intro (aead.length_of_openParts nonce opened)
      exact Or.inl ⟨plaintext, rfl, if_neg tagged⟩
  | error fault =>
      obtain rfl := openParts_error opened
      exact Or.inr ⟨rfl, by simp⟩

theorem openInPlace_eq_ok : aead.openInPlace nonce hidden tag = (.ok (), plaintext) ↔
    aead.openParts nonce hidden tag = .ok plaintext := by
  rcases aead.openInPlace_cases nonce hidden tag with ⟨found, parts, whole⟩ | ⟨parts, whole⟩
  all_goals simp [parts, whole]

theorem openInPlace_eq_error : aead.openInPlace nonce hidden tag = (.error fault, hidden) ↔
    aead.openParts nonce hidden tag = .error fault := by
  rcases aead.openInPlace_cases nonce hidden tag with ⟨found, parts, whole⟩ | ⟨parts, whole⟩
  all_goals simp [parts, whole]

end InPlace

section Combined

variable (aead : Aead) (nonce : Nonce) {plaintext sealed : Bytes}

/-- What is too short for a tag is refused as what has a wrong one. -/
theorem decrypt_eq (sealed : Bytes) : aead.decrypt nonce sealed =
    aead.openParts nonce (sealed.take (sealed.length - tagSize)) (sealed.drop (sealed.length - tagSize)) := by
  unfold decrypt
  split
  · rename_i short
    cases opened : aead.openParts nonce (sealed.take (sealed.length - tagSize))
        (sealed.drop (sealed.length - tagSize)) with
    | ok plaintext =>
        have tagged := aead.length_of_openParts nonce opened
        rw [List.length_drop] at tagged
        omega
    | error fault => rw [openParts_error opened]
  · rfl

theorem decrypt_eq_ok : aead.decrypt nonce sealed = .ok plaintext ↔
    plaintext.length ≤ aead.kind.openLimit ∧ sealed = aead.message nonce plaintext := by
  rw [decrypt_eq, openParts_eq_ok]
  refine and_congr_right fun _ => ⟨?_, ?_⟩
  · rintro ⟨front, back⟩
    rw [message, ← front, ← back, List.take_append_drop]
  · rintro rfl
    have front : (aead.message nonce plaintext).length - tagSize = (aead.mask nonce plaintext).length := by simp
    rw [front]
    simp [message]

theorem decrypt_iff_encrypt (short : plaintext.length ≤ aead.kind.sealLimit) :
    aead.decrypt nonce sealed = .ok plaintext ↔ aead.encrypt nonce plaintext = .ok sealed := by
  have fits := Nat.le_trans short aead.kind.sealLimit_le_openLimit
  rw [decrypt_eq_ok, encrypt_eq_ok, and_iff_right fits, and_iff_right short]

theorem decrypt_error {fault : Fault} (refused : aead.decrypt nonce sealed = .error fault) : fault = .decryption := by
  rw [decrypt_eq] at refused
  exact openParts_error refused

theorem decrypt_foreign (fits : sealed.length ≤ sealedLength aead.kind.sealLimit)
    (foreign : ∀ plaintext, aead.encrypt nonce plaintext ≠ .ok sealed) :
    aead.decrypt nonce sealed = .error .decryption := by
  cases opened : aead.decrypt nonce sealed with
  | error fault => rw [aead.decrypt_error nonce opened]
  | ok plaintext =>
      obtain ⟨-, rfl⟩ := (aead.decrypt_eq_ok nonce).mp opened
      have short : plaintext.length ≤ aead.kind.sealLimit := by
        rw [length_message, sealedLength] at fits
        omega
      exact absurd (aead.encrypt_eq nonce plaintext short) (foreign plaintext)

theorem decrypt_tagged {hidden : Bytes} (fits : hidden.length ≤ aead.kind.openLimit) :
    aead.decrypt nonce (hidden ++ aead.tag nonce hidden) = .ok (aead.mask nonce hidden) := by
  rw [decrypt_eq_ok, length_mask, message, mask_mask]
  exact ⟨fits, rfl⟩

theorem encrypt_ne_tagged {hidden : Bytes} (long : aead.kind.sealLimit < hidden.length) :
    aead.encrypt nonce plaintext ≠ .ok (hidden ++ aead.tag nonce hidden) := by
  intro made
  obtain ⟨short, same⟩ := (aead.encrypt_eq_ok nonce).mp made
  have lengths := congrArg List.length same
  rw [length_message, List.length_append, length_tag] at lengths
  omega

theorem decrypt_long (long : sealedLength aead.kind.openLimit < sealed.length) :
    aead.decrypt nonce sealed = .error .decryption := by
  cases opened : aead.decrypt nonce sealed with
  | error fault => rw [aead.decrypt_error nonce opened]
  | ok plaintext =>
      obtain ⟨fits, rfl⟩ := (aead.decrypt_eq_ok nonce).mp opened
      rw [length_message, sealedLength] at long
      omega

end Combined

/-- Under every key of its size, a cipher gives the same whether the tag is put behind the text or kept apart. What is
sealed in one form is opened in both, and both agree on everything else. A text is what is opened from one message only;
if it can be sealed that is the message of it. Every refusal has one fault, whatever is wrong, and a buffer that is
refused stays as it is. -/
theorem combined_as_detached (kind : AeadKind) (key : Bytes) (sized : key.length = kind.keySize) (nonce : Nonce) :
    ∃ aead, Aead.ofKey kind key = .ok aead ∧
      (∀ plaintext : Bytes, plaintext.length ≤ kind.sealLimit →
        ∃ hidden tag, aead.sealInPlace nonce plaintext = (.ok tag, hidden) ∧
          aead.encrypt nonce plaintext = .ok (hidden ++ tag) ∧
          (hidden ++ tag).length = sealedLength plaintext.length ∧
          aead.decrypt nonce (hidden ++ tag) = .ok plaintext ∧
          aead.openInPlace nonce hidden tag = (.ok (), plaintext)) ∧
      (∀ plaintext : Bytes, kind.sealLimit < plaintext.length →
        aead.encrypt nonce plaintext = .error (.crypto .sealing) ∧
          aead.sealInPlace nonce plaintext = (.error (.crypto .sealing), plaintext)) ∧
      (∀ sealed plaintext : Bytes, plaintext.length ≤ kind.sealLimit →
        aead.decrypt nonce sealed = .ok plaintext → aead.encrypt nonce plaintext = .ok sealed) ∧
      (∀ plaintext : Bytes, plaintext.length ≤ kind.openLimit →
        ∃ hidden tag, (hidden ++ tag).length = sealedLength plaintext.length ∧
          ∀ sealed, aead.decrypt nonce sealed = .ok plaintext ↔ sealed = hidden ++ tag) ∧
      (∀ sealed : Bytes,
        let hidden := sealed.take (sealed.length - tagSize)
        let tag := sealed.drop (sealed.length - tagSize)
        (∀ plaintext, aead.decrypt nonce sealed = .ok plaintext ↔
          aead.openInPlace nonce hidden tag = (.ok (), plaintext)) ∧
        (∀ fault, aead.decrypt nonce sealed = .error fault ↔
          aead.openInPlace nonce hidden tag = (.error fault, hidden))) ∧
      (∀ sealed : Bytes, sealed.length ≤ sealedLength kind.sealLimit →
        (∀ plaintext, aead.encrypt nonce plaintext ≠ .ok sealed) → aead.decrypt nonce sealed = .error .decryption) ∧
      (∀ sealed : Bytes, sealedLength kind.openLimit < sealed.length → aead.decrypt nonce sealed = .error .decryption) ∧
      (∀ sealed fault, aead.decrypt nonce sealed = .error fault → fault = .decryption) ∧
      ∀ hidden tag : Bytes, tag.length ≠ tagSize →
        aead.openInPlace nonce hidden tag = (.error .decryption, hidden) := by
  refine ⟨⟨kind, key, sized⟩, dif_pos sized, ?_, ?_, ?_, ?_, ?_, ?_, ?_, ?_, ?_⟩
  · intro plaintext short
    refine ⟨_, _, sealInPlace_eq _ nonce short, encrypt_eq _ nonce plaintext short, length_message _ nonce plaintext,
      decrypt_message _ nonce plaintext short, ?_⟩
    exact (openInPlace_eq_ok _ nonce).mpr (openParts_mask _ nonce plaintext short)
  · intro plaintext long
    exact ⟨encrypt_long _ nonce long, sealInPlace_long _ nonce long⟩
  · intro sealed plaintext short
    exact (decrypt_iff_encrypt _ nonce short).mp
  · intro plaintext fits
    refine ⟨_, _, length_message ⟨kind, key, sized⟩ nonce plaintext, fun sealed => ?_⟩
    rw [decrypt_eq_ok, and_iff_right fits, message]
  · intro sealed
    dsimp only
    rw [decrypt_eq]
    exact ⟨fun _ => (openInPlace_eq_ok _ nonce).symm, fun _ => (openInPlace_eq_error _ nonce).symm⟩
  · intro sealed fits foreign
    exact decrypt_foreign _ nonce fits foreign
  · intro sealed long
    exact decrypt_long _ nonce long
  · intro sealed fault refused
    exact decrypt_error _ nonce refused
  · intro hidden tag untagged
    exact if_pos untagged

theorem combined_as_detached_pair :
    ∃ aead sealed, Aead.ofKey .aes128Gcm (Bytes.zeros 16) = .ok aead ∧ aead.encrypt .zero [1, 2] = .ok sealed ∧
      sealed.length = 18 ∧ aead.decrypt .zero sealed = .ok [1, 2] ∧
      aead.decrypt .zero (sealed.take 15) = .error .decryption := by
  obtain ⟨aead, made, sealing, -, -, -, -, foreign, -⟩ := combined_as_detached .aes128Gcm (Bytes.zeros 16) rfl .zero
  obtain ⟨hidden, tag, -, encrypted, length, decrypted, -⟩ := sealing [1, 2] (Nat.le_of_ble_eq_true rfl)
  have short : ((hidden ++ tag).take 15).length ≤ 15 := List.length_take_le ..
  refine ⟨aead, _, made, encrypted, length, decrypted, foreign _ (Nat.le_trans short (Nat.le_of_ble_eq_true rfl)) ?_⟩
  intro plaintext whole
  obtain ⟨-, same⟩ := (aead.encrypt_eq_ok .zero).mp whole
  rw [same, length_message, tagSize] at short
  omega

/-- One byte more than can be sealed, with the tag of it: it is opened, though it is no message of any text. -/
theorem opens_unsealed :
    let aead : Aead := ⟨.aes128Gcm, Bytes.zeros 16, rfl⟩
    let hidden := Bytes.zeros 0x1000000001
    Aead.ofKey .aes128Gcm (Bytes.zeros 16) = .ok aead ∧
      (∀ plaintext, aead.encrypt .zero plaintext ≠ .ok (hidden ++ aead.tag .zero hidden)) ∧
      aead.encrypt .zero (aead.mask .zero hidden) = .error (.crypto .sealing) ∧
      aead.decrypt .zero (hidden ++ aead.tag .zero hidden) = .ok (aead.mask .zero hidden) := by
  intro aead hidden
  have long : AeadKind.sealLimit .aes128Gcm < hidden.length := by
    rw [Bytes.length_zeros]
    decide
  have fits : hidden.length ≤ AeadKind.openLimit .aes128Gcm := by
    rw [Bytes.length_zeros]
    decide
  have masked : AeadKind.sealLimit .aes128Gcm < (aead.mask .zero hidden).length := by
    rw [length_mask]
    exact long
  refine ⟨rfl, fun plaintext => ?_, ?_, ?_⟩
  · exact aead.encrypt_ne_tagged .zero long
  · exact aead.encrypt_long .zero masked
  · exact aead.decrypt_tagged .zero fits

end Aead
end SealedTunnel
