import SealedTunnel.Packet
import SealedTunnel.Proofs.Crypto.Detached
import SealedTunnel.Proofs.Wire.Slots

/-!
The ways in which packing and unpacking end, each with what is left in the buffer: the packet at the front of it, the
plaintext, zeros, or what was there before.
-/
namespace SealedTunnel.Packet

variable {key : MasterKey} {salts : SaltSource} {plaintext packet buffer : Bytes} {length : Nat}

section Packing

theorem build_undrawn {fault : Fault} (undrawn : salts.draw 0 key.saltSize = .error fault) :
    build key salts plaintext = .error fault := by
  rw [build, undrawn]
  rfl

theorem build_drawn {salt : Bytes} {session : Aead} (drawn : salts.draw 0 key.saltSize = .ok salt)
    (ofSalt : key.session salt = .ok session) :
    build key salts plaintext = (session.encrypt .zero plaintext).map (salt ++ ·) := by
  rw [build, drawn]
  change (key.session salt >>= fun session => session.encrypt .zero plaintext >>= fun sealed =>
    pure (salt ++ sealed)) = _
  rw [ofSalt]
  change (session.encrypt .zero plaintext >>= fun sealed => pure (salt ++ sealed)) = _
  cases session.encrypt .zero plaintext <;> rfl

theorem build_eq_ok : build key salts plaintext = .ok packet ↔
    ∃ salt session, salts.draw 0 key.saltSize = .ok salt ∧ key.session salt = .ok session ∧
      plaintext.length ≤ session.kind.sealLimit ∧ packet = salt ++ session.message .zero plaintext := by
  cases drawn : salts.draw 0 key.saltSize with
  | error fault => simp [build_undrawn drawn]
  | ok salt =>
      obtain ⟨session, ofSalt⟩ := key.session_ok salt
      rw [build_drawn drawn ofSalt]
      constructor
      · intro built
        cases sealed : session.encrypt .zero plaintext with
        | error fault =>
            rw [sealed] at built
            cases built
        | ok message =>
            rw [sealed] at built
            cases built
            obtain ⟨short, rfl⟩ := (session.encrypt_eq_ok .zero).mp sealed
            exact ⟨salt, session, rfl, ofSalt, short, rfl⟩
      · rintro ⟨_, _, same, again, short, rfl⟩
        cases same
        cases ofSalt.symm.trans again
        rw [session.encrypt_eq .zero plaintext short]
        rfl

theorem length_of_build (built : build key salts plaintext = .ok packet) :
    packet.length = plaintext.length + overhead key := by
  obtain ⟨salt, session, drawn, -, -, rfl⟩ := build_eq_ok.mp built
  rw [List.length_append, Aead.length_message, SaltSource.length_of_draw drawn, overhead]
  omega

theorem exists_build {salt : Bytes} (drawn : salts.draw 0 key.saltSize = .ok salt) :
    (∃ packet, build key salts plaintext = .ok packet) ↔ plaintext.length ≤ key.spec.kind.sealLimit := by
  obtain ⟨session, ofSalt⟩ := key.session_ok salt
  rw [build_drawn drawn ofSalt, ← MasterKey.kind_session ofSalt]
  constructor
  · intro built
    refine Nat.not_lt.mp fun long => ?_
    rw [session.encrypt_long .zero long] at built
    obtain ⟨packet, built⟩ := built
    cases built
  · intro short
    rw [session.encrypt_eq .zero plaintext short]
    exact ⟨_, rfl⟩

theorem salt_isPrefix_build {salt : Bytes} (drawn : salts.draw 0 key.saltSize = .ok salt)
    (built : build key salts plaintext = .ok packet) : salt <+: packet := by
  obtain ⟨_, session, same, -, -, rfl⟩ := build_eq_ok.mp built
  cases drawn.symm.trans same
  exact List.prefix_append ..

theorem checkRoom_short (short : buffer.length < length + overhead key) :
    checkRoom key buffer.length length = .error (.shortBuffer (length + overhead key) buffer.length) :=
  if_pos short

theorem checkRoom_eq_ok (roomy : length + overhead key ≤ buffer.length) :
    checkRoom key buffer.length length = .ok (length + overhead key) :=
  if_neg (Nat.not_lt.mpr roomy)

theorem overwrite_message (session : Aead) (salt payload rest : Bytes) {place : Bytes} (sized : place.length = tagSize) :
    ((salt ++ (payload ++ (place ++ rest))).overwrite salt.length (session.mask .zero payload)).overwrite
        (salt.length + payload.length) (session.tag .zero (session.mask .zero payload)) =
      salt ++ session.message .zero payload ++ rest := by
  have hidden : (salt ++ (payload ++ (place ++ rest))).overwrite salt.length (session.mask .zero payload) =
      salt ++ (session.mask .zero payload ++ (place ++ rest)) :=
    Bytes.overwrite_slot _ rfl (session.length_mask .zero payload)
  rw [hidden, ← List.append_assoc, Bytes.overwrite_slot _ (by simp) (by simp [sized])]
  simp [Aead.message]

/-- A buffer with room for it gets the packet at its front, and keeps what is behind; or its salt or its size is refused. -/
theorem packInPlace_cases (salts : SaltSource) (roomy : length + overhead key ≤ buffer.length) :
    let built := build key salts ((buffer.drop key.saltSize).take length)
    (∃ packet, built = .ok packet ∧
        packInPlace key salts length buffer = ⟨.ok packet, packet ++ buffer.drop (length + overhead key)⟩) ∨
      ∃ fault left, built = .error fault ∧ packInPlace key salts length buffer = ⟨.error fault, left⟩ := by
  rw [packInPlace, checkRoom_eq_ok roomy]
  dsimp only
  cases drawn : salts.draw 0 key.saltSize with
  | error fault => exact Or.inr ⟨fault, buffer, build_undrawn drawn, rfl⟩
  | ok salt =>
      obtain ⟨session, ofSalt⟩ := key.session_ok salt
      have slots : key.saltSize + length + tagSize ≤ buffer.length := by
        rw [overhead] at roomy
        omega
      obtain ⟨slot, payload, place, rest, rfl, slotSize, rfl, placeSize⟩ := Bytes.exists_slots slots
      have saltSize : salt.length = key.saltSize := SaltSource.length_of_draw drawn
      have held : ∀ front : Bytes, front.length = key.saltSize →
          ((front ++ (payload ++ (place ++ rest))).drop key.saltSize).take payload.length = payload := by
        intro front size
        rw [List.drop_left' size, List.take_left]
      have salted : (slot ++ (payload ++ (place ++ rest))).overwrite 0 salt = salt ++ (payload ++ (place ++ rest)) :=
        Bytes.overwrite_front _ (saltSize.trans slotSize.symm)
      rw [held slot slotSize]
      simp only [ofSalt, salted, held salt saltSize]
      by_cases short : payload.length ≤ session.kind.sealLimit
      · have built : build key salts payload = .ok (salt ++ session.message .zero payload) :=
          build_eq_ok.mpr ⟨salt, session, drawn, ofSalt, short, rfl⟩
        have behind : (slot ++ (payload ++ (place ++ rest))).drop (payload.length + overhead key) = rest := by
          rw [← List.append_assoc, ← List.append_assoc, List.drop_left']
          simp only [List.length_append, slotSize, placeSize, overhead]
          omega
        refine Or.inl ⟨_, built, ?_⟩
        rw [session.sealInPlace_eq .zero short, behind]
        simp only [← saltSize, overwrite_message session salt payload rest placeSize, List.take_left' (length_of_build built)]
      · rw [session.sealInPlace_long .zero (Nat.lt_of_not_le short), build_drawn drawn ofSalt,
          session.encrypt_long .zero (Nat.lt_of_not_le short)]
        exact Or.inr ⟨_, _, rfl, rfl⟩

theorem result_packInPlace (roomy : length + overhead key ≤ buffer.length) :
    (packInPlace key salts length buffer).result = build key salts ((buffer.drop key.saltSize).take length) := by
  rcases packInPlace_cases salts roomy with ⟨packet, built, packed⟩ | ⟨fault, left, refused, packed⟩
  · rw [built, packed]
  · rw [refused, packed]

theorem pack_short (short : buffer.length < plaintext.length + overhead key) :
    pack key salts plaintext buffer =
      ⟨.error (.shortBuffer (plaintext.length + overhead key) buffer.length), buffer⟩ := by
  rw [pack, checkRoom_short short]

theorem pack_cases (salts : SaltSource) (roomy : plaintext.length + overhead key ≤ buffer.length) :
    (∃ packet, build key salts plaintext = .ok packet ∧
        pack key salts plaintext buffer = ⟨.ok packet, packet ++ buffer.drop (plaintext.length + overhead key)⟩) ∨
      ∃ fault left, build key salts plaintext = .error fault ∧ pack key salts plaintext buffer = ⟨.error fault, left⟩ := by
  have fits : key.saltSize + plaintext.length ≤ buffer.length := by
    rw [overhead] at roomy
    omega
  have behind : key.saltSize + plaintext.length ≤ plaintext.length + overhead key := by
    rw [overhead]
    omega
  have copied : plaintext.length + overhead key ≤ (buffer.overwrite key.saltSize plaintext).length := by
    rwa [Bytes.length_overwrite fits]
  have cases := packInPlace_cases salts copied
  rw [Bytes.take_overwrite fits, Bytes.drop_overwrite fits behind] at cases
  rw [pack, checkRoom_eq_ok roomy]
  exact cases

theorem result_pack (roomy : plaintext.length + overhead key ≤ buffer.length) :
    (pack key salts plaintext buffer).result = build key salts plaintext := by
  rcases pack_cases salts roomy with ⟨packet, built, packed⟩ | ⟨fault, left, refused, packed⟩
  · rw [built, packed]
  · rw [refused, packed]

theorem buffer_pack (roomy : plaintext.length + overhead key ≤ buffer.length)
    (built : build key salts plaintext = .ok packet) :
    (pack key salts plaintext buffer).buffer = packet ++ buffer.drop (plaintext.length + overhead key) := by
  rcases pack_cases salts roomy with ⟨_, same, packed⟩ | ⟨fault, left, refused, -⟩
  · cases built.symm.trans same
    rw [packed]
  · cases built.symm.trans refused

theorem roomy_of_pack (packed : (pack key salts plaintext buffer).result = .ok packet) :
    plaintext.length + overhead key ≤ buffer.length := by
  refine Nat.not_lt.mp (fun short => ?_)
  rw [pack_short short] at packed
  cases packed

theorem build_error {fault : Fault} (refused : build key salts plaintext = .error fault) :
    (∃ reason, fault = .salt reason) ∨ fault = .crypto .sealing := by
  cases drawn : salts.draw 0 key.saltSize with
  | error cause =>
      rw [build_undrawn drawn] at refused
      cases refused
      exact Or.inl (SaltSource.fault_of_draw drawn)
  | ok salt =>
      obtain ⟨session, ofSalt⟩ := key.session_ok salt
      rw [build_drawn drawn ofSalt] at refused
      by_cases short : plaintext.length ≤ session.kind.sealLimit
      · rw [session.encrypt_eq .zero plaintext short] at refused
        cases refused
      · rw [session.encrypt_long .zero (Nat.not_le.mp short)] at refused
        cases refused
        exact Or.inr rfl

end Packing

section Unpacking

theorem checkPacket_short (short : packet.length < overhead key) :
    checkPacket key packet.length = .error (.shortPacket (overhead key) packet.length) :=
  if_pos short

theorem checkPacket_eq_ok {length size : Nat} : checkPacket key length = .ok size ↔ length = size + overhead key := by
  unfold checkPacket
  split
  · constructor
    · intro none
      cases none
    · omega
  · constructor
    · intro same
      have size := Except.ok.inj same
      omega
    · rintro rfl
      rw [Nat.add_sub_cancel]

theorem reveal_short (short : packet.length < overhead key) :
    reveal key packet = .error (.shortPacket (overhead key) packet.length) := by
  rw [reveal, checkPacket_short short]
  rfl

theorem reveal_long (sized : packet.length = length + overhead key) :
    ∃ session, key.session (packet.take key.saltSize) = .ok session ∧
      reveal key packet = session.openParts .zero ((packet.drop key.saltSize).take length)
        ((packet.drop key.saltSize).drop length) := by
  obtain ⟨session, ofSalt⟩ := key.session_ok (packet.take key.saltSize)
  refine ⟨session, ofSalt, ?_⟩
  rw [reveal, checkPacket_eq_ok.mpr sized]
  change (key.session _ >>= _) = _
  rw [ofSalt]
  rfl

theorem unpack_short (short : packet.length < overhead key) :
    unpack key packet buffer = ⟨.error (.shortPacket (overhead key) packet.length), buffer⟩ := by
  rw [unpack, checkPacket_short short]

theorem unpack_narrow (sized : packet.length = length + overhead key) (narrow : buffer.length < length) :
    unpack key packet buffer = ⟨.error (.shortBuffer length buffer.length), buffer⟩ := by
  rw [unpack, checkPacket_eq_ok.mpr sized]
  exact if_pos narrow

theorem length_hidden (sized : packet.length = length + overhead key) :
    ((packet.drop key.saltSize).take length).length = length := by
  rw [overhead] at sized
  rw [List.length_take, List.length_drop]
  omega

theorem unpack_cases (sized : packet.length = length + overhead key) (wide : length ≤ buffer.length) :
    (∃ plaintext, reveal key packet = .ok plaintext ∧ plaintext.length = length ∧
        unpack key packet buffer = ⟨.ok plaintext, plaintext ++ buffer.drop length⟩) ∨
      (reveal key packet = .error .decryption ∧
        unpack key packet buffer = ⟨.error .decryption, Bytes.zeros length ++ buffer.drop length⟩) := by
  obtain ⟨session, ofSalt, revealed⟩ := reveal_long sized
  have hidden := length_hidden sized
  -- Whatever is written over the front of the buffer, as long as the plaintext, leaves the rest of it.
  have front : ∀ old patch : Bytes, old.length = length → patch.length = length →
      (old ++ buffer.drop length).overwrite 0 patch = patch ++ buffer.drop length := by
    intro old patch oldSize patchSize
    exact Bytes.overwrite_front _ (patchSize.trans oldSize.symm)
  have copied : ∀ patch : Bytes, patch.length = length → buffer.overwrite 0 patch = patch ++ buffer.drop length := by
    intro patch size
    rw [Bytes.overwrite_eq (by omega), List.take_zero, List.nil_append, Nat.zero_add, size]
  have zeros := Bytes.length_zeros length
  rw [unpack, checkPacket_eq_ok.mpr sized]
  dsimp only
  rw [if_neg (Nat.not_lt.mpr wide), ofSalt]
  simp only [copied _ hidden, List.take_left' hidden]
  rcases session.openInPlace_cases .zero ((packet.drop key.saltSize).take length)
    ((packet.drop key.saltSize).drop length) with ⟨plaintext, parts, opened⟩ | ⟨parts, opened⟩
  · have size : plaintext.length = length := (Aead.length_openParts parts).trans hidden
    refine Or.inl ⟨plaintext, revealed.trans parts, size, ?_⟩
    simp only [opened, front _ _ hidden size, List.take_left' size]
  · refine Or.inr ⟨revealed.trans parts, ?_⟩
    simp only [opened, front _ _ hidden hidden, front _ _ hidden zeros]

theorem unpackInPlace_cases (sized : packet.length = length + overhead key) :
    (∃ plaintext, reveal key packet = .ok plaintext ∧ plaintext.length = length ∧
        unpackInPlace key packet =
          ⟨.ok plaintext, packet.take key.saltSize ++ (plaintext ++ packet.drop (key.saltSize + length))⟩) ∨
      (reveal key packet = .error .decryption ∧ unpackInPlace key packet = ⟨.error .decryption, packet⟩) := by
  obtain ⟨session, ofSalt, revealed⟩ := reveal_long sized
  have hidden := length_hidden sized
  have fits : key.saltSize + length ≤ packet.length := by
    rw [overhead] at sized
    omega
  have salt : (packet.take key.saltSize).length = key.saltSize := List.length_take_of_le (by omega)
  rw [unpackInPlace, checkPacket_eq_ok.mpr sized]
  dsimp only
  rw [ofSalt]
  dsimp only
  rcases session.openInPlace_cases .zero ((packet.drop key.saltSize).take length)
    ((packet.drop key.saltSize).drop length) with ⟨plaintext, parts, opened⟩ | ⟨parts, opened⟩
  · have size : plaintext.length = length := (Aead.length_openParts parts).trans hidden
    have written : packet.overwrite key.saltSize plaintext =
        packet.take key.saltSize ++ (plaintext ++ packet.drop (key.saltSize + length)) := by
      rw [Bytes.overwrite_eq (by omega), size, List.append_assoc]
    refine Or.inl ⟨plaintext, revealed.trans parts, size, ?_⟩
    simp only [opened, written, List.drop_left' salt, List.take_left' size]
  · refine Or.inr ⟨revealed.trans parts, ?_⟩
    simp only [opened, Bytes.overwrite_same fits]

theorem unpackInPlace_short (short : packet.length < overhead key) :
    unpackInPlace key packet = ⟨.error (.shortPacket (overhead key) packet.length), packet⟩ := by
  rw [unpackInPlace, checkPacket_short short]

theorem result_unpack (roomy : packet.length ≤ buffer.length + overhead key) :
    (unpack key packet buffer).result = reveal key packet := by
  by_cases short : packet.length < overhead key
  · rw [unpack_short short, reveal_short short]
  · obtain ⟨size, sized⟩ := Nat.exists_eq_add_of_le' (Nat.not_lt.mp short)
    have wide : size ≤ buffer.length := by omega
    rcases unpack_cases sized wide with ⟨plaintext, revealed, -, unpacked⟩ | ⟨refused, unpacked⟩
    · rw [revealed, unpacked]
    · rw [refused, unpacked]

theorem result_unpackInPlace : (unpackInPlace key packet).result = reveal key packet := by
  by_cases short : packet.length < overhead key
  · rw [unpackInPlace_short short, reveal_short short]
  · obtain ⟨size, sized⟩ := Nat.exists_eq_add_of_le' (Nat.not_lt.mp short)
    rcases unpackInPlace_cases sized with ⟨plaintext, revealed, -, unpacked⟩ | ⟨refused, unpacked⟩
    · rw [revealed, unpacked]
    · rw [refused, unpacked]

end Unpacking

end SealedTunnel.Packet
