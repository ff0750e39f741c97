import SealedTunnel.Proofs.Address.Encoding

namespace SealedTunnel

namespace Bytes

theorem ofText_of_toText? {bytes : Bytes} {text : String} (read : toText? bytes = some text) : ofText text = bytes := by
  unfold toText? String.fromUTF8? at read
  split at read
  · cases read
    simp [ofText, String.fromUTF8]
  · cases read

theorem ofNatBE_toNatBE {bytes : Bytes} (two : bytes.length = 2) :
    ofNatBE 2 (UInt16.ofNat bytes.toNatBE).toNat = bytes := by
  match bytes, two with
  | [high, low], _ =>
      have first : high.toNat < 256 := high.toNat_lt
      have second : low.toNat < 256 := low.toNat_lt
      have number : (UInt16.ofNat (toNatBE [high, low])).toNat = high.toNat * 256 + low.toNat := by
        simp only [toNatBE, List.foldl_cons, List.foldl_nil, UInt16.toNat_ofNat']
        omega
      simp only [number, ofNatBE, ofNatLE, List.reverse_cons, List.reverse_nil, List.nil_append, List.cons_append,
        List.cons.injEq, and_true, ← UInt8.toNat_inj, UInt8.toNat_ofNat']
      omega

end Bytes

namespace Ipv6

theorem groups_of_pairs (count : Nat) (bytes : Bytes) (even : bytes.length = 2 * count) :
    let groups := (bytes.pieces 2).map fun pair => UInt16.ofNat pair.toNatBE
    groups.length = count ∧ (groups.flatMap fun group => Bytes.ofNatBE 2 group.toNat) = bytes := by
  induction count generalizing bytes with
  | zero =>
      have none : bytes = [] := List.eq_nil_of_length_eq_zero even
      subst none
      rw [Bytes.pieces_nil]
      exact ⟨rfl, rfl⟩
  | succ count ih =>
      obtain ⟨high, bytes, rfl⟩ := List.exists_cons_of_length_pos (show 0 < bytes.length by omega)
      rw [List.length_cons] at even
      obtain ⟨low, rest, rfl⟩ := List.exists_cons_of_length_pos (show 0 < bytes.length by omega)
      rw [List.length_cons] at even
      obtain ⟨length, same⟩ := ih rest (by omega)
      rw [Bytes.pieces_cons_cons]
      refine ⟨?_, ?_⟩
      · rw [List.map_cons, List.length_cons, length]
      · rw [List.map_cons, List.flatMap_cons, same, Bytes.ofNatBE_toNatBE rfl]
        rfl

theorem toBytes_ofBytes {bytes : Bytes} (sixteen : bytes.length = 16) : (ofBytes bytes).toBytes = bytes := by
  obtain ⟨eight, same⟩ := groups_of_pairs 8 bytes sixteen
  have all := List.take_of_length_le (Nat.le_of_eq eight)
  simp only [List.length_map] at eight
  simp [ofBytes, ofParts, toBytes, eight, all, same]

end Ipv6

namespace Target

variable {data : Bytes} {target : Target} {type : UInt8} {front host : Bytes} {port : UInt16} {used : Nat}

/-- The bytes of a host, and what stands in front of them. -/
inductive Laid : (type : UInt8) → (front host : Bytes) → Prop
  | ipv4 {host : Bytes} (sized : host.length = 4) : Laid 1 [] host
  | ipv6 {host : Bytes} (sized : host.length = 16) : Laid 4 [] host
  | domain {length : UInt8} {host : Bytes} (sized : host.length = length.toNat) : Laid 3 [length] host

theorem Laid.layout (laid : Laid type front host) (rest : Bytes) :
    layout (type :: (front ++ rest)) = .ok (front.length + 1, host.length) := by
  cases laid with
  | ipv4 sized | ipv6 sized | domain sized =>
      rw [sized]
      rfl

theorem layout_eq_ok {start length : Nat} (laid : layout data = .ok (start, length)) :
    ∃ type front rest, data = type :: (front ++ rest) ∧ start = front.length + 1 ∧
      ∀ host : Bytes, host.length = length → Laid type front host := by
  cases data with
  | nil => cases laid
  | cons type rest =>
      simp only [Target.layout] at laid
      split at laid
      · rename_i isIpv4
        cases laid
        exact ⟨type, [], rest, rfl, rfl, fun host sized => isIpv4 ▸ .ipv4 sized⟩
      · split at laid
        · rename_i isIpv6
          cases laid
          exact ⟨type, [], rest, rfl, rfl, fun host sized => isIpv6 ▸ .ipv6 sized⟩
        · split at laid
          · rename_i isDomain
            cases rest with
            | nil => cases laid
            | cons length rest =>
                cases laid
                exact ⟨type, [length], rest, rfl, rfl, fun host sized => isDomain ▸ .domain sized⟩
          · cases laid

theorem parts_of_decode (decoded : decode data = .ok (target, used)) :
    ∃ type front host port rest, Laid type front host ∧ ofParts type host port = .ok target ∧
      data = type :: (front ++ (host ++ (Bytes.ofNatBE 2 port.toNat ++ rest))) ∧
      used = front.length + 1 + host.length + 2 := by
  unfold decode at decoded
  cases laid : layout data with
  | error fault =>
      rw [laid] at decoded
      cases decoded
  | ok place =>
      obtain ⟨start, length⟩ := place
      rw [laid] at decoded
      change (if data.length < start + length + 2 then _ else _) = _ at decoded
      split at decoded
      · cases decoded
      · rename_i complete
        obtain ⟨type, front, behind, rfl, rfl, fits⟩ := layout_eq_ok laid
        have drops : (type :: (front ++ behind)).drop (front.length + 1) = behind := by
          rw [List.drop_succ_cons, List.drop_left]
        have roomy : length + 2 ≤ behind.length := by
          simp only [List.length_cons, List.length_append] at complete
          omega
        have sized : (behind.take length).length = length := by
          rw [List.length_take]
          omega
        have two : ((behind.drop length).take 2).length = 2 := by
          rw [List.length_take, List.length_drop]
          omega
        have later : (type :: (front ++ behind)).drop (front.length + 1 + length) = behind.drop length := by
          rw [← List.drop_drop, drops]
        rw [drops, later] at decoded
        change (ofParts type (behind.take length) _).bind _ = _ at decoded
        cases made : ofParts type (behind.take length) (UInt16.ofNat (Bytes.toNatBE ((behind.drop length).take 2))) with
        | error fault =>
            rw [made] at decoded
            cases decoded
        | ok found =>
            rw [made] at decoded
            cases decoded
            refine ⟨type, front, behind.take length, _, (behind.drop length).drop 2, fits _ sized, made, ?_, ?_⟩
            · rw [Bytes.ofNatBE_toNatBE two, List.take_append_drop, List.take_append_drop]
            · rw [sized]

theorem ofParts_name (host : Bytes) (port : UInt16) : ofParts 3 host port =
    ((Bytes.toText? host).elim (.error (.address .domainText)) fun name => .ok (domain name port)) := by
  cases read : Bytes.toText? host <;> simp [ofParts, read]

theorem encode_laid (laid : Laid type front host) (made : ofParts type host port = .ok target) :
    (target.isEncodable ∧ target.encode = .ok (type :: (front ++ (host ++ Bytes.ofNatBE 2 port.toNat)))) ∨
      (type = 3 ∧ front = [0] ∧ host = [] ∧ target = domain "" port) := by
  cases laid with
  | ipv4 sized =>
      match host, sized with
      | [a, b, c, d], _ =>
          cases made
          exact Or.inl ⟨rfl, rfl⟩
  | ipv6 sized =>
      have found : target = ipv6 (Ipv6.ofBytes host) port 0 0 := by
        cases made
        rfl
      subst found
      refine Or.inl ⟨rfl, ?_⟩
      rw [encode, Ipv6.toBytes_ofBytes sized]
      rfl
  | @domain length host sized =>
      rw [ofParts_name] at made
      cases read : Bytes.toText? host with
      | none =>
          rw [read] at made
          cases made
      | some name =>
          rw [read] at made
          cases made
          obtain rfl := Bytes.ofText_of_toText? read
          by_cases able : (Target.domain name port).isEncodable
          · refine Or.inl ⟨able, ?_⟩
            rw [encode, if_pos able, sized, UInt8.ofNat_toNat]
            simp [portBytes, Target.port]
          · have small := length.toNat_lt
            rw [isEncodable_domain, ← Bytes.length_ofText, sized, longestDomain] at able
            have zero : length = 0 := UInt8.toNat_inj.mp (by
              change length.toNat = 0
              omega)
            subst zero
            have none : Bytes.ofText name = [] := List.eq_nil_of_length_eq_zero sized
            rw [none] at read
            cases read
            exact Or.inr ⟨rfl, rfl, none, rfl⟩

/-- A target that is read lies within the bytes, is read again with anything else behind it, and its encoding is what
was read, unless the type byte of a name is followed by a length byte of zero. Then the target is a name of no bytes,
which has no encoding. -/
theorem decoded_encodes (decoded : decode data = .ok (target, used)) :
    used ≤ data.length ∧
      (∀ other, data.take used <+: other → decode other = .ok (target, used)) ∧
      (¬ [3, 0] <+: data → target.isEncodable ∧ target.encode = .ok (data.take used)) ∧
      ([3, 0] <+: data → ¬ target.isEncodable ∧ used = 4 ∧ ∃ port, target = domain "" port) := by
  obtain ⟨type, front, host, port, rest, laid, made, rfl, rfl⟩ := parts_of_decode decoded
  have whole : type :: (front ++ (host ++ (Bytes.ofNatBE 2 port.toNat ++ rest))) =
      type :: (front ++ (host ++ Bytes.ofNatBE 2 port.toNat)) ++ rest := by simp
  have length : (type :: (front ++ (host ++ Bytes.ofNatBE 2 port.toNat))).length =
      front.length + 1 + host.length + 2 := by
    simp only [List.length_cons, List.length_append, Bytes.length_ofNatBE]
    omega
  rw [whole, List.take_left' length]
  refine ⟨?_, ?_, ?_, ?_⟩
  · rw [List.length_append, length]
    exact Nat.le_add_right _ _
  · rintro other ⟨behind, rfl⟩
    have parts : type :: (front ++ (host ++ Bytes.ofNatBE 2 port.toNat)) ++ behind =
        type :: (front ++ (host ++ (Bytes.ofNatBE 2 port.toNat ++ behind))) := by simp
    rw [decode_parts type front host port behind parts (parts ▸ laid.layout _), made]
    rfl
  · intro named
    rcases encode_laid laid made with encoded | ⟨rfl, rfl, -, -⟩
    · exact encoded
    · exact absurd (List.prefix_append [3, 0] _) named
  · rintro ⟨behind, nameless⟩
    cases laid with
    | ipv4 | ipv6 => cases nameless
    | @domain length host sized =>
        obtain ⟨rfl, -⟩ := List.cons.inj (List.cons.inj nameless).2
        have none : host = [] := List.eq_nil_of_length_eq_zero sized
        subst none
        cases made
        exact ⟨Bool.false_ne_true, rfl, port, rfl⟩

theorem decoded_encodes_name :
    decode [3, 3, 97, 46, 98, 1, 187, 9] = .ok (domain "a.b" 443, 7) ∧
      (domain "a.b" 443).encode = .ok [3, 3, 97, 46, 98, 1, 187] ∧
      ∀ rest, decode (3 :: 3 :: 97 :: 46 :: 98 :: 1 :: 187 :: rest) = .ok (domain "a.b" 443, 7) := by
  have decoded : decode [3, 3, 97, 46, 98, 1, 187, 9] = .ok (domain "a.b" 443, 7) := rfl
  have named : ¬ [3, 0] <+: ([3, 3, 97, 46, 98, 1, 187, 9] : Bytes) := by decide
  obtain ⟨-, again, encodes, -⟩ := decoded_encodes decoded
  exact ⟨decoded, (encodes named).2, fun rest => again _ ⟨rest, rfl⟩⟩

/-- A name of no bytes is read, although it cannot be written. -/
theorem nameless_decodes :
    ¬ ∀ data target used, decode data = .ok (target, used) →
      used ≤ data.length ∧ target.isEncodable ∧ target.encode = .ok (data.take used) ∧
        ∀ other, data.take used <+: other → decode other = .ok (target, used) := by
  intro canonical
  have decoded : decode [3, 0, 0, 80] = .ok (domain "" 80, 4) := rfl
  obtain ⟨-, able, -⟩ := canonical _ _ _ decoded
  cases able

end Target
end SealedTunnel
