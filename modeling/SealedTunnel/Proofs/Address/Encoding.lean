import SealedTunnel.Proofs.Wire.Encoding
import SealedTunnel.Target

/-!
Targets in bytes. An encoding is as long as its target says, and whatever stands behind it, decoding gives the target
back: all of it except flow and scope, which have no place in the encoding.
-/
namespace SealedTunnel

namespace Bytes

@[simp] theorem length_ofText (text : String) : (ofText text).length = text.utf8ByteSize := by
  simp [ofText]

@[simp] theorem toText?_ofText (text : String) : toText? (ofText text) = some text := by
  have same : (⟨(ofText text).toArray⟩ : ByteArray) = text.toUTF8 := by simp [ofText]
  rw [toText?, same, String.fromUTF8?, String.toUTF8_eq_toByteArray, dif_pos text.isValidUTF8]
  rfl

theorem pieces_cons_cons (high low : UInt8) (rest : Bytes) : pieces 2 (high :: low :: rest) = [high, low] :: pieces 2 rest := by
  rw [pieces_some (by decide) (List.cons_ne_nil _ _)]
  rfl

end Bytes

theorem UInt16.ofNat_toNatBE (number : UInt16) : UInt16.ofNat (Bytes.ofNatBE 2 number.toNat).toNatBE = number := by
  rw [Bytes.toNatBE_ofNatBE_two _ number.toNat_lt, UInt16.ofNat_toNat]

namespace Ipv6

@[simp] theorem length_toBytes (ip : Ipv6) : ip.toBytes.length = 16 := by
  have pairs := Bytes.length_flatMap ip.groups (fun group => Bytes.ofNatBE 2 group.toNat) 2 (by simp)
  rw [toBytes, pairs, ip.length_groups]

theorem pairs_toBytes (groups : List UInt16) :
    (Bytes.pieces 2 (groups.flatMap fun group => Bytes.ofNatBE 2 group.toNat)).map
      (fun pair => UInt16.ofNat pair.toNatBE) = groups := by
  induction groups with
  | nil =>
      rw [List.flatMap_nil, Bytes.pieces_nil]
      rfl
  | cons group groups ih =>
      have front : ∀ rest : Bytes, Bytes.pieces 2 (Bytes.ofNatBE 2 group.toNat ++ rest) =
          Bytes.ofNatBE 2 group.toNat :: Bytes.pieces 2 rest := Bytes.pieces_cons_cons _ _
      rw [List.flatMap_cons, front, List.map_cons, ih, UInt16.ofNat_toNatBE]

theorem ofBytes_toBytes (ip : Ipv6) : ofBytes ip.toBytes = ip := by
  obtain ⟨groups, eight⟩ := ip
  have all : groups.take 8 = groups := List.take_of_length_le (Nat.le_of_eq eight)
  simp [ofBytes, toBytes, pairs_toBytes, ofParts, eight, all]

end Ipv6

namespace Target

variable {target : Target} {encoded : Bytes}

/-- The target without what its encoding leaves out. -/
def unscoped : Target → Target
  | ipv6 ip port _ _ => ipv6 ip port 0 0
  | target => target

theorem isEncodable_domain {host : String} {port : UInt16} :
    (domain host port).isEncodable ↔ 0 < host.utf8ByteSize ∧ host.utf8ByteSize ≤ longestDomain := by
  simp [isEncodable]

theorem encode_encodable (able : target.isEncodable) :
    ∃ encoded, target.encode = .ok encoded ∧ encoded.length = target.encodedLength := by
  cases target with
  | ipv4 ip port => exact ⟨_, rfl, rfl⟩
  | ipv6 ip port flow scope =>
      refine ⟨_, rfl, ?_⟩
      simp [encodedLength, portBytes]
  | domain host port =>
      refine ⟨_, if_pos able, ?_⟩
      simp [encodedLength, portBytes]
      omega

theorem encode_refused (unable : ¬ target.isEncodable) :
    ∃ host port, target = domain host port ∧ target.encode = .error (.address (.domainLength host.utf8ByteSize)) := by
  cases target with
  | ipv4 | ipv6 => exact absurd rfl unable
  | domain host port =>
      refine ⟨host, port, rfl, ?_⟩
      simp [encode, unable]

theorem encode_able (made : target.encode = .ok encoded) : target.isEncodable := by
  apply Decidable.byContradiction
  intro unable
  obtain ⟨host, port, -, refused⟩ := encode_refused unable
  rw [refused] at made
  cases made

theorem length_encode (made : target.encode = .ok encoded) : encoded.length = target.encodedLength := by
  obtain ⟨other, also, length⟩ := encode_encodable (encode_able made)
  cases made.symm.trans also
  exact length

theorem length_encode_le (made : target.encode = .ok encoded) :
    0 < encoded.length ∧ encoded.length ≤ 4 + longestDomain := by
  have length := length_encode made
  have able := encode_able made
  cases target with
  | ipv4 | ipv6 =>
      rw [length, encodedLength]
      decide
  | domain host port =>
      have short := (isEncodable_domain.mp able).2
      rw [encodedLength] at length
      omega

theorem decode_parts {data : Bytes} (type : UInt8) (front host : Bytes) (port : UInt16) (rest : Bytes)
    (parts : data = type :: (front ++ (host ++ (Bytes.ofNatBE 2 port.toNat ++ rest))))
    (laid : layout data = .ok (front.length + 1, host.length)) :
    decode data = (ofParts type host port).map fun target => (target, front.length + 1 + host.length + 2) := by
  have complete : ¬ data.length < front.length + 1 + host.length + 2 := by
    rw [parts]
    simp
    omega
  have behind : data.drop (front.length + 1) = host ++ (Bytes.ofNatBE 2 port.toNat ++ rest) := by
    rw [parts, List.drop_succ_cons, List.drop_left]
  have named : (data.drop (front.length + 1)).take host.length = host := by
    rw [behind, List.take_left]
  have ported : (data.drop (front.length + 1 + host.length)).take 2 = Bytes.ofNatBE 2 port.toNat := by
    rw [← List.drop_drop, behind, List.drop_left, List.take_left' (by simp)]
  have typed : data.headD 0 = type := by rw [parts]; rfl
  rw [decode, laid]
  change (if data.length < front.length + 1 + host.length + 2 then _ else _) = _
  rw [if_neg complete]
  rw [typed, named, ported, UInt16.ofNat_toNatBE]
  cases ofParts type host port <;> rfl

/-- Decoding undoes encoding, up to flow and scope, and does not look at what stands behind. -/
theorem decode_encode (made : target.encode = .ok encoded) (rest : Bytes) :
    decode (encoded ++ rest) = .ok (target.unscoped, encoded.length) := by
  rw [length_encode made]
  cases target with
  | ipv4 ip port =>
      cases made
      exact decode_parts 1 [] ip.toBytes port rest rfl rfl
  | ipv6 ip port flow scope =>
      cases made
      refine (decode_parts 4 [] ip.toBytes port rest (by simp [portBytes, Target.port]) (by simp [layout])).trans ?_
      simp [ofParts, unscoped, encodedLength, Ipv6.ofBytes_toBytes, Except.map]
  | domain host port =>
      have able := encode_able made
      have short : host.utf8ByteSize < 256 := Nat.lt_succ_of_le (isEncodable_domain.mp able).2
      rw [encode, if_pos able] at made
      cases made
      have length : (UInt8.ofNat host.utf8ByteSize).toNat = host.utf8ByteSize := by
        rw [UInt8.toNat_ofNat']
        exact Nat.mod_eq_of_lt short
      refine (decode_parts 3 [UInt8.ofNat (Bytes.ofText host).length] (Bytes.ofText host) port rest
        (by simp [portBytes, Target.port]) (by simp [layout, length])).trans ?_
      simp [ofParts, unscoped, encodedLength, Except.map]
      omega

end Target
end SealedTunnel
