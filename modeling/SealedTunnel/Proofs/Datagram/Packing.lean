import SealedTunnel.Proofs.Datagram.Buffers

namespace SealedTunnel

namespace Aead

variable (session : Aead)

/-- Of the hidden texts of this length only those that sealing gives can be opened. -/
def OpensOnlySealed (length : Nat) : Prop :=
  ∀ nonce hidden tag plaintext, hidden.length = length → session.openParts nonce hidden tag = .ok plaintext →
    session.sealParts nonce plaintext = .ok (hidden, tag)

/-- Every cipher does so, except at the lengths that it does not seal any more and still opens. -/
theorem opensOnlySealed {length : Nat} (covered : session.kind.openLimit < length ∨ length ≤ session.kind.sealLimit) :
    session.OpensOnlySealed length := by
  intro nonce hidden tag plaintext sized opened
  obtain ⟨short, rfl, rfl⟩ := (session.openParts_eq_ok nonce).mp opened
  rw [length_mask] at sized
  have sealable : ¬ plaintext.length > session.kind.sealLimit := by omega
  rw [sealParts, if_neg sealable]

theorem OpensOnlySealed.sealable {session : Aead} {plaintext : Bytes}
    (honest : session.OpensOnlySealed plaintext.length) (short : plaintext.length ≤ session.kind.openLimit) :
    plaintext.length ≤ session.kind.sealLimit := by
  have opened := (session.openParts_eq_ok .zero).mpr ⟨short, rfl, rfl⟩
  have made := honest _ _ _ _ (session.length_mask .zero plaintext) opened
  refine Nat.not_lt.mp (fun long => ?_)
  rw [sealParts, if_pos long] at made
  cases made

end Aead

namespace Packet

variable {key : MasterKey} {salts : SaltSource} {plaintext packet : Bytes}

theorem reveal_eq_ok : reveal key packet = .ok plaintext ↔
    ∃ salt session, salt.length = key.saltSize ∧ key.session salt = .ok session ∧
      plaintext.length ≤ session.kind.openLimit ∧ packet = salt ++ session.message .zero plaintext := by
  constructor
  · intro revealed
    by_cases short : packet.length < overhead key
    · rw [reveal_short short] at revealed
      cases revealed
    · obtain ⟨size, sized⟩ := Nat.exists_eq_add_of_le' (Nat.not_lt.mp short)
      obtain ⟨session, ofSalt, opened⟩ := reveal_long sized
      rw [revealed] at opened
      obtain ⟨limited, hidden, tagged⟩ := (session.openParts_eq_ok .zero).mp opened.symm
      have room : key.saltSize ≤ packet.length := by
        unfold overhead at sized
        omega
      refine ⟨packet.take key.saltSize, session, List.length_take_of_le room, ofSalt, limited, ?_⟩
      rw [Aead.message, ← hidden, ← tagged, List.take_append_drop, List.take_append_drop]
  · rintro ⟨salt, session, sized, ofSalt, limited, rfl⟩
    have length : (salt ++ session.message .zero plaintext).length = plaintext.length + overhead key := by
      rw [List.length_append, Aead.length_message, sized, overhead]
      omega
    obtain ⟨same, again, opened⟩ := reveal_long length
    rw [List.take_left' sized] at again
    cases ofSalt.symm.trans again
    have hidden : (session.message .zero plaintext).take plaintext.length = session.mask .zero plaintext :=
      List.take_left' (by simp)
    have tagged : (session.message .zero plaintext).drop plaintext.length =
        session.tag .zero (session.mask .zero plaintext) := List.drop_left' (by simp)
    rw [opened, List.drop_left' sized, hidden, tagged]
    exact (session.openParts_eq_ok .zero).mpr ⟨limited, rfl, rfl⟩

theorem reveal_refused (complete : overhead key ≤ packet.length)
    (none : ∀ plaintext, reveal key packet ≠ .ok plaintext) : reveal key packet = .error .decryption := by
  obtain ⟨size, sized⟩ := Nat.exists_eq_add_of_le' complete
  obtain ⟨session, -, opened⟩ := reveal_long sized
  cases revealed : reveal key packet with
  | ok plaintext => exact absurd revealed (none plaintext)
  | error fault => rw [session.openParts_error (opened.symm.trans revealed)]

/-- Between a packet and another of its length that differ in the tag only, just one can be opened. -/
theorem eq_of_reveal {other text : Bytes} (revealed : reveal key packet = .ok plaintext)
    (again : reveal key other = .ok text) (length : other.length = packet.length)
    (body : other.take (packet.length - tagSize) = packet.take (packet.length - tagSize)) : other = packet := by
  obtain ⟨salt, session, sized, ofSalt, -, rfl⟩ := reveal_eq_ok.mp revealed
  obtain ⟨prefixed, same, resized, ofPrefix, -, rfl⟩ := reveal_eq_ok.mp again
  have texts : text.length = plaintext.length := by
    simp only [List.length_append, Aead.length_message, sized, resized] at length
    omega
  have size : (salt ++ session.message .zero plaintext).length - tagSize =
      (salt ++ session.mask .zero plaintext).length := by
    simp only [List.length_append, Aead.length_message, Aead.length_mask]
    omega
  have bodies : prefixed ++ same.mask .zero text = salt ++ session.mask .zero plaintext := by
    rw [size] at body
    simp only [Aead.message, ← List.append_assoc] at body
    rwa [List.take_left, List.take_left' (by simp [sized, resized, texts])] at body
  obtain ⟨rfl, hidden⟩ := List.append_inj bodies (resized.trans sized.symm)
  cases ofSalt.symm.trans ofPrefix
  rw [Aead.message, Aead.message, hidden]

theorem reveal_build (built : build key salts plaintext = .ok packet) : reveal key packet = .ok plaintext := by
  obtain ⟨salt, session, drawn, ofSalt, short, rfl⟩ := build_eq_ok.mp built
  have limited := Nat.le_trans short session.kind.sealLimit_le_openLimit
  exact reveal_eq_ok.mpr ⟨salt, session, SaltSource.length_of_draw drawn, ofSalt, limited, rfl⟩

theorem build_reveal (revealed : reveal key packet = .ok plaintext)
    (authentic : ∀ session, key.session (packet.take key.saltSize) = .ok session →
      session.OpensOnlySealed (packet.length - overhead key)) :
    build key (.fixed (packet.take key.saltSize)) plaintext = .ok packet := by
  obtain ⟨salt, session, sized, ofSalt, short, rfl⟩ := reveal_eq_ok.mp revealed
  have length : (salt ++ session.message .zero plaintext).length - overhead key = plaintext.length := by
    rw [List.length_append, Aead.length_message, sized, overhead]
    omega
  rw [List.take_left' sized, length] at authentic
  rw [List.take_left' sized]
  exact build_eq_ok.mpr ⟨salt, session, if_pos sized, ofSalt, (authentic session ofSalt).sealable short, rfl⟩

/-- Unpacking accepts what packing gives and nothing else; all other packets are refused, for their length or else for
what is sealed in them. Of the cipher it is taken for granted only that it opens nothing but what it seals, at the
length at hand. Whatever is packed comes back, and no other tag will do for it. -/
theorem unpack_accepts_packed (key : MasterKey) (packet buffer : Bytes)
    (authentic : ∀ session, key.session (packet.take key.saltSize) = .ok session →
      session.OpensOnlySealed (packet.length - overhead key))
    (roomy : packet.length ≤ buffer.length + overhead key) :
    (∀ plaintext room : Bytes, plaintext.length + overhead key ≤ room.length →
      ((unpack key packet buffer).result = .ok plaintext ↔
        (pack key (.fixed (packet.take key.saltSize)) plaintext room).result = .ok packet)) ∧
      (packet.length < overhead key →
        (unpack key packet buffer).result = .error (.shortPacket (overhead key) packet.length)) ∧
      (overhead key ≤ packet.length → (∀ plaintext, (unpack key packet buffer).result ≠ .ok plaintext) →
        (unpack key packet buffer).result = .error .decryption) ∧
      (∀ (salts : SaltSource) (salt plaintext room out : Bytes), salts.draw 0 key.saltSize = .ok salt →
        plaintext.length ≤ key.spec.kind.sealLimit → plaintext.length + overhead key ≤ room.length →
        plaintext.length ≤ out.length → ∃ packed, (pack key salts plaintext room).result = .ok packed ∧
          (unpack key packed out).result = .ok plaintext) ∧
      (∀ (salts : SaltSource) (plaintext room packed : Bytes), (pack key salts plaintext room).result = .ok packed →
        packet.length = packed.length →
        packet.take (packed.length - tagSize) = packed.take (packed.length - tagSize) → packet ≠ packed →
        (unpack key packet buffer).result = .error .decryption) := by
  rw [result_unpack roomy]
  refine ⟨?_, reveal_short, reveal_refused, ?_, ?_⟩
  · intro plaintext room enough
    rw [result_pack enough]
    exact ⟨fun revealed => build_reveal revealed authentic, reveal_build⟩
  · intro salts salt plaintext room out drawn short enough wide
    obtain ⟨session, ofSalt⟩ := key.session_ok salt
    rw [← MasterKey.kind_session ofSalt] at short
    have built := build_eq_ok.mpr ⟨salt, session, drawn, ofSalt, short, rfl⟩
    have fits := length_of_build built
    refine ⟨_, (result_pack enough).trans built, ?_⟩
    rw [result_unpack (by omega)]
    exact reveal_build built
  · intro salts plaintext room packed sound length body other
    have enough := roomy_of_pack sound
    rw [result_pack enough] at sound
    have complete := length_of_build sound
    refine reveal_refused (by omega) (fun text revealed => ?_)
    exact other (eq_of_reveal (reveal_build sound) revealed length body)

theorem unpack_accepts_packed_pair :
    let key : MasterKey := ⟨⟨"aes-128-gcm", "AEAD_AES_128_GCM", .aes128Gcm⟩, []⟩
    ∃ packed, (pack key (.fixed (Bytes.zeros 16)) [1, 2] (Bytes.zeros 34)).result = .ok packed ∧ packed.length = 34 ∧
      (unpack key packed [0, 0]).result = .ok [1, 2] ∧
      ∀ packet : Bytes, packet.length = 34 → packet.take 18 = packed.take 18 → packet ≠ packed →
        (unpack key packet [0, 0]).result = .error .decryption := by
  intro key
  have authentic : ∀ packet : Bytes, packet.length = 34 →
      ∀ session, key.session (packet.take key.saltSize) = .ok session →
      session.OpensOnlySealed (packet.length - overhead key) := by
    intro packet length session _
    rw [length]
    refine session.opensOnlySealed (Or.inr ?_)
    cases session.kind <;> decide
  have roomy : ∀ packet : Bytes, packet.length = 34 → packet.length ≤ ([0, 0] : Bytes).length + overhead key :=
    fun packet length => Nat.le_of_eq length
  have short : ([1, 2] : Bytes).length ≤ key.spec.kind.sealLimit := Nat.le_of_ble_eq_true rfl
  obtain ⟨-, -, -, comes, -⟩ := unpack_accepts_packed key (Bytes.zeros 34) [0, 0] (authentic _ rfl) (roomy _ rfl)
  obtain ⟨packed, sound, opened⟩ := comes (.fixed (Bytes.zeros 16)) _ [1, 2] (Bytes.zeros 34) [0, 0] rfl short
    (Nat.le_refl _) (Nat.le_refl _)
  have length : packed.length = 34 := length_of_build ((result_pack (Nat.le_refl _)).symm.trans sound)
  refine ⟨packed, sound, length, opened, ?_⟩
  intro packet same body other
  obtain ⟨-, -, -, -, tampered⟩ := unpack_accepts_packed key packet [0, 0] (authentic packet same) (roomy packet same)
  rw [← same] at length
  refine tampered (.fixed (Bytes.zeros 16)) [1, 2] _ packed sound length.symm ?_ other
  rw [length, same]
  exact body

end Packet
end SealedTunnel
