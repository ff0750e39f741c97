import SealedTunnel.Proofs.Datagram.Packing

namespace SealedTunnel.Packet

variable {key : MasterKey} {plaintext packet : Bytes}

/-- A payload is packed into the front of a buffer that has room for a salt and a tag around it, and refused otherwise
with the buffer as it was. The packet is the same if the payload stands in its place already, whatever else the buffer
holds; it begins with the salt, and behind it nothing changes. -/
theorem pack_as_in_place (key : MasterKey) (salts : SaltSource) (plaintext buffer : Bytes) :
    let needed := key.saltSize + plaintext.length + tagSize
    let packed := pack key salts plaintext buffer
    (∀ size available, packed.result = .error (.shortBuffer size available) ↔
      buffer.length < needed ∧ size = needed ∧ available = buffer.length) ∧
    (buffer.length < needed → packed.buffer = buffer) ∧
    (∀ other : Bytes, other.length = buffer.length → (other.drop key.saltSize).take plaintext.length = plaintext →
      (packInPlace key salts plaintext.length other).result = packed.result) ∧
    ∀ salt, needed ≤ buffer.length → salts.draw 0 key.saltSize = .ok salt →
      ((∃ packet, packed.result = .ok packet) ↔ plaintext.length ≤ key.spec.kind.sealLimit) ∧
      ∀ packet, packed.result = .ok packet →
        packet.length = needed ∧ salt <+: packet ∧ packed.buffer = packet ++ buffer.drop needed := by
  intro needed packed
  have size : needed = plaintext.length + overhead key := by
    simp only [needed, overhead]
    omega
  rw [size]
  by_cases short : buffer.length < plaintext.length + overhead key
  · have refused : packed = _ := pack_short short
    rw [refused]
    refine ⟨?_, fun _ => rfl, ?_, fun salt roomy => absurd short (Nat.not_lt.mpr roomy)⟩
    · simp [short, eq_comm]
    · intro other same held
      rw [packInPlace, checkRoom_short (same ▸ short), same]
  · have roomy := Nat.not_lt.mp short
    have result : packed.result = build key salts plaintext := result_pack roomy
    refine ⟨?_, fun narrow => absurd narrow short, ?_, ?_⟩
    · intro size available
      rw [result]
      refine ⟨fun refused => ?_, fun narrow => absurd narrow.1 short⟩
      rcases build_error refused with ⟨cause, other⟩ | other <;> cases other
    · intro other same held
      rw [result, result_packInPlace (same ▸ roomy), held]
    · intro salt _ drawn
      rw [result]
      refine ⟨exists_build drawn, fun packet built => ?_⟩
      exact ⟨length_of_build built, salt_isPrefix_build drawn built, buffer_pack roomy built⟩

section Pair

def shortKey : MasterKey := ⟨⟨"aes-128-gcm", "AEAD_AES_128_GCM", .aes128Gcm⟩, []⟩

theorem pack_as_in_place_pair :
    let packed := pack shortKey (.fixed (Bytes.zeros 16)) [1, 2] (List.replicate 40 170)
    ∃ packet, packed.result = .ok packet ∧ packet.length = 34 ∧ Bytes.zeros 16 <+: packet ∧
      packed.buffer = packet ++ List.replicate 6 170 ∧
      (packInPlace shortKey (.fixed (Bytes.zeros 16)) 2 (Bytes.zeros 16 ++ [1, 2] ++ Bytes.zeros 22)).result =
        .ok packet := by
  intro packed
  obtain ⟨-, -, inPlace, packs⟩ :=
    pack_as_in_place shortKey (.fixed (Bytes.zeros 16)) [1, 2] (List.replicate 40 170)
  obtain ⟨fits, parts⟩ := packs (Bytes.zeros 16) (by decide) rfl
  obtain ⟨packet, result⟩ := fits.mpr (by decide)
  obtain ⟨size, salted, rest⟩ := parts packet result
  have standing := inPlace (Bytes.zeros 16 ++ [1, 2] ++ Bytes.zeros 22) rfl rfl
  exact ⟨packet, result, size, salted, rest, standing.trans result⟩

end Pair

theorem unpackInPlace_refused {fault : Fault} (refused : (unpackInPlace key packet).result = .error fault) :
    (unpackInPlace key packet).buffer = packet := by
  by_cases short : packet.length < overhead key
  · rw [unpackInPlace_short short]
  · obtain ⟨length, sized⟩ := Nat.exists_eq_add_of_le' (Nat.not_lt.mp short)
    rcases unpackInPlace_cases sized with ⟨plaintext, -, -, unpacked⟩ | ⟨-, unpacked⟩
    · rw [unpacked] at refused
      cases refused
    · rw [unpacked]

theorem unpackInPlace_opened (opened : (unpackInPlace key packet).result = .ok plaintext) :
    plaintext.length = packet.length - overhead key ∧ (unpackInPlace key packet).buffer =
      packet.take key.saltSize ++ (plaintext ++ packet.drop (packet.length - tagSize)) := by
  by_cases short : packet.length < overhead key
  · rw [unpackInPlace_short short] at opened
    cases opened
  · obtain ⟨length, sized⟩ := Nat.exists_eq_add_of_le' (Nat.not_lt.mp short)
    rcases unpackInPlace_cases sized with ⟨_, -, size, unpacked⟩ | ⟨-, unpacked⟩
    · have tagged : key.saltSize + length = packet.length - tagSize := by
        rw [sized, overhead]
        omega
      rw [unpacked] at opened ⊢
      cases opened
      rw [← tagged]
      exact ⟨by omega, rfl⟩
    · rw [unpacked] at opened
      cases opened

/-- A packet is unpacked into a buffer as it is where it stands, except that the buffer may be too short for the
plaintext. Nothing behind the plaintext's place changes in the buffer, and nothing at all if the lengths are refused;
zeros take the place of a plaintext that is not authentic. Where a packet stands, only an authentic plaintext replaces
what was hidden, between the salt and the tag. -/
theorem unpack_as_in_place (key : MasterKey) (packet buffer : Bytes) :
    let length := packet.length - overhead key
    let copied := unpack key packet buffer
    let inPlace := unpackInPlace key packet
    (∀ needed available, copied.result = .error (.shortBuffer needed available) ↔
      overhead key ≤ packet.length ∧ buffer.length < length ∧ needed = length ∧ available = buffer.length) ∧
    (¬(overhead key ≤ packet.length ∧ buffer.length < length) → copied.result = inPlace.result) ∧
    (copied.buffer.length = buffer.length ∧ copied.buffer.drop length = buffer.drop length) ∧
    (∀ fault, copied.result = .error fault → fault ≠ .decryption → copied.buffer = buffer) ∧
    (copied.result = .error .decryption → copied.buffer.take length = Bytes.zeros length) ∧
    (∀ plaintext, copied.result = .ok plaintext → copied.buffer.take length = plaintext) ∧
    (∀ fault, inPlace.result = .error fault → inPlace.buffer = packet) ∧
    ∀ plaintext, inPlace.result = .ok plaintext → plaintext.length = length ∧
      inPlace.buffer = packet.take key.saltSize ++ (plaintext ++ packet.drop (packet.length - tagSize)) := by
  intro length copied inPlace
  by_cases short : packet.length < overhead key
  · have refused : copied = ⟨.error (.shortPacket (overhead key) packet.length), buffer⟩ := unpack_short short
    have agrees : copied.result = inPlace.result := by
      rw [result_unpackInPlace, refused, reveal_short short]
    refine ⟨?_, fun _ => agrees, ?_, ?_, ?_, ?_, fun _ => unpackInPlace_refused, fun _ => unpackInPlace_opened⟩
    · simp [refused, Nat.not_le.mpr short]
    all_goals simp [refused]
  obtain ⟨size, sized⟩ := Nat.exists_eq_add_of_le' (Nat.not_lt.mp short)
  have same : length = size := by omega
  by_cases narrow : buffer.length < size
  · have refused : copied = ⟨.error (.shortBuffer size buffer.length), buffer⟩ := unpack_narrow sized narrow
    refine ⟨?_, ?_, ?_, ?_, ?_, ?_, fun _ => unpackInPlace_refused, fun _ => unpackInPlace_opened⟩
    · simp [refused, same, narrow, Nat.not_lt.mp short, eq_comm]
    · intro sufficient
      exact absurd ⟨Nat.not_lt.mp short, same ▸ narrow⟩ sufficient
    all_goals simp [refused]
  · have agrees : copied.result = inPlace.result := by
      rw [result_unpackInPlace, result_unpack (by omega)]
    rcases unpack_cases sized (Nat.not_lt.mp narrow) with ⟨plaintext, -, wide, unpacked⟩ | ⟨-, unpacked⟩
    · have opened : copied = ⟨.ok plaintext, plaintext ++ buffer.drop size⟩ := unpacked
      refine ⟨?_, fun _ => agrees, ?_, ?_, ?_, ?_, fun _ => unpackInPlace_refused, fun _ => unpackInPlace_opened⟩
      · simp [opened, same, narrow]
      · simp [opened, same, wide]
        omega
      all_goals simp [opened, same, wide]
    · have refused : copied = ⟨.error .decryption, Bytes.zeros size ++ buffer.drop size⟩ := unpacked
      have zeros := Bytes.length_zeros size
      refine ⟨?_, fun _ => agrees, ?_, ?_, ?_, ?_, fun _ => unpackInPlace_refused, fun _ => unpackInPlace_opened⟩
      · simp [refused, same, narrow]
      · simp [refused, same, zeros]
        omega
      all_goals simp [refused, same, zeros]

theorem unpack_as_in_place_pair :
    ∃ packet, (unpack shortKey packet [7]).result = .error (.shortBuffer 2 1) ∧
      (unpack shortKey packet [7]).buffer = [7] ∧ (unpack shortKey packet [7, 7, 7]).result = .ok [1, 2] ∧
      (unpack shortKey packet [7, 7, 7]).buffer = [1, 2, 7] ∧ (unpackInPlace shortKey packet).result = .ok [1, 2] := by
  obtain ⟨session, ofSalt⟩ := shortKey.session_ok (Bytes.zeros 16)
  have built : build shortKey (.fixed (Bytes.zeros 16)) [1, 2] = .ok (Bytes.zeros 16 ++ session.message .zero [1, 2]) :=
    build_eq_ok.mpr ⟨_, session, rfl, ofSalt, by rw [MasterKey.kind_session ofSalt]; decide, rfl⟩
  have sized : (Bytes.zeros 16 ++ session.message .zero [1, 2]).length = 2 + overhead shortKey := length_of_build built
  generalize Bytes.zeros 16 ++ session.message .zero [1, 2] = packet at built sized
  have revealed : (unpackInPlace shortKey packet).result = .ok [1, 2] :=
    result_unpackInPlace.trans (reveal_build built)
  have length : packet.length - overhead shortKey = 2 := by omega
  obtain ⟨narrow, -, -, untouched, -⟩ := unpack_as_in_place shortKey packet [7]
  obtain ⟨-, agrees, ⟨-, behind⟩, -, -, opened, -⟩ := unpack_as_in_place shortKey packet [7, 7, 7]
  rw [length] at narrow agrees behind opened
  have short := (narrow 2 1).mpr ⟨by omega, by decide, rfl, rfl⟩
  have result := (agrees (by simp)).trans revealed
  refine ⟨packet, short, untouched _ short (by simp), result, ?_, revealed⟩
  rw [← List.take_append_drop 2 (unpack shortKey packet [7, 7, 7]).buffer, opened _ result, behind]
  rfl

end SealedTunnel.Packet
