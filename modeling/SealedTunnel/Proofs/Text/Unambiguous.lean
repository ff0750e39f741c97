import SealedTunnel.Proofs.Address.Canonical
import SealedTunnel.Proofs.Text.Base64

namespace SealedTunnel

theorem Bytes.toText?_eq_some {bytes : Bytes} {text : String} : bytes.toText? = some text ↔ Bytes.ofText text = bytes := by
  constructor
  · exact ofText_of_toText?
  · intro written
    rw [← written, toText?_ofText]

namespace Base64

namespace Variant

variable {variant : Variant} {chars : List Char} {bytes : Bytes} {a b c d : Char} {n : Nat}

theorem ofNat_counted {low : Char} (least : low ≤ c) : Char.ofNat (low.toNat + (c.toNat - low.toNat)) = c := by
  have least : low.toNat ≤ c.toNat := least
  rw [Nat.add_sub_cancel' least, Char.ofNat_toNat]

theorem digit_of_value? (read : variant.value? c = some n) : n < 64 ∧ variant.digit n = c := by
  unfold value? at read
  split_ifs at read with upper lower number first last
  · cases read
    have small : c.toNat - 'A'.toNat ≤ 25 := Nat.sub_le_sub_right upper.2 _
    refine ⟨by omega, ?_⟩
    rw [digit, if_pos (by omega)]
    exact ofNat_counted upper.1
  · cases read
    have small : c.toNat - 'a'.toNat ≤ 25 := Nat.sub_le_sub_right lower.2 _
    refine ⟨by omega, ?_⟩
    rw [digit, if_neg (by omega), if_pos (by omega), Nat.add_sub_cancel]
    exact ofNat_counted lower.1
  · cases read
    have small : c.toNat - '0'.toNat ≤ 9 := Nat.sub_le_sub_right number.2 _
    refine ⟨by omega, ?_⟩
    rw [digit, if_neg (by omega), if_neg (by omega), if_pos (by omega), Nat.add_sub_cancel]
    exact ofNat_counted number.1
  · cases read
    exact ⟨by decide, first.symm⟩
  · cases read
    exact ⟨by decide, last.symm⟩

section Groups

variable {x y z w : Nat}

theorem toNat_first (hx : x < 64) (hy : y < 64) : (UInt8.ofNat (x * 4 + y / 16)).toNat = x * 4 + y / 16 := by
  rw [UInt8.toNat_ofNat']
  omega

theorem toNat_second (hz : z < 64) : (UInt8.ofNat (y % 16 * 16 + z / 4)).toNat = y % 16 * 16 + z / 4 := by
  rw [UInt8.toNat_ofNat']
  omega

theorem toNat_third (hw : w < 64) : (UInt8.ofNat (z % 4 * 64 + w)).toNat = z % 4 * 64 + w := by
  rw [UInt8.toNat_ofNat']
  omega

theorem encode_two (read : variant.decodeTwo a b = some bytes) : variant.encode bytes = [a, b] ++ variant.padding 2 := by
  obtain ⟨x, first, y, second, whole, made⟩ := decodeTwo_eq_some.mp read
  obtain ⟨hx, rfl⟩ := digit_of_value? first
  obtain ⟨hy, rfl⟩ := digit_of_value? second
  have one : (x * 4 + y / 16) / 4 = x := by omega
  have two : (x * 4 + y / 16) % 4 * 16 = y := by omega
  rw [← made, encode, toNat_first hx hy, one, two]

theorem encode_three (read : variant.decodeThree a b c = some bytes) :
    variant.encode bytes = [a, b, c] ++ variant.padding 1 := by
  obtain ⟨x, first, y, second, z, third, whole, made⟩ := decodeThree_eq_some.mp read
  obtain ⟨hx, rfl⟩ := digit_of_value? first
  obtain ⟨hy, rfl⟩ := digit_of_value? second
  obtain ⟨hz, rfl⟩ := digit_of_value? third
  have one : (x * 4 + y / 16) / 4 = x := by omega
  have two : (x * 4 + y / 16) % 4 * 16 + (y % 16 * 16 + z / 4) / 16 = y := by omega
  have three : (y % 16 * 16 + z / 4) % 16 * 4 = z := by omega
  rw [← made, encode, toNat_first hx hy, toNat_second hz, one, two, three]

theorem encode_four (read : variant.decodeFour a b c d = some bytes) (behind : Bytes) :
    variant.encode (bytes ++ behind) = a :: b :: c :: d :: variant.encode behind := by
  obtain ⟨x, first, y, second, z, third, w, fourth, made⟩ := decodeFour_eq_some.mp read
  obtain ⟨hx, rfl⟩ := digit_of_value? first
  obtain ⟨hy, rfl⟩ := digit_of_value? second
  obtain ⟨hz, rfl⟩ := digit_of_value? third
  obtain ⟨hw, rfl⟩ := digit_of_value? fourth
  have one : (x * 4 + y / 16) / 4 = x := by omega
  have two : (x * 4 + y / 16) % 4 * 16 + (y % 16 * 16 + z / 4) / 16 = y := by omega
  have three : (y % 16 * 16 + z / 4) % 16 * 4 + (z % 4 * 64 + w) / 64 = z := by omega
  have four : (z % 4 * 64 + w) % 64 = w := by omega
  rw [← made, List.cons_append, List.cons_append, List.cons_append, List.nil_append, encode, toNat_first hx hy,
    toNat_second hz, toNat_third hw, one, two, three, four]

end Groups

/-- A variant reads nothing but what it writes. -/
theorem encode_of_decode (known : variant ∈ all) : ∀ {chars : List Char} {bytes : Bytes},
    variant.decode chars = some bytes → variant.encode bytes = chars
  | [], _, read => by
      cases read
      rfl
  | [_], _, read => by cases read
  | [a, b], _, read => by
      have bare := decode_two.mp read
      simp [encode_two bare.2, padding, bare.1]
  | [a, b, c], _, read => by
      have bare := decode_three.mp read
      simp [encode_three bare.2, padding, bare.1]
  | a :: b :: c :: d :: rest, _, read => by
      rw [decode_four known] at read
      by_cases pad : d = '='
      · rw [if_pos pad] at read
        -- What fills up stands at the very end, behind a single byte or two.
        obtain ⟨padded, ended, group⟩ := read
        by_cases fill : c = '='
        · rw [if_pos fill] at group
          simp [encode_two group, padding, padded, ended, pad, fill]
        · rw [if_neg fill] at group
          simp [encode_three group, padding, padded, ended, pad]
      · rw [if_neg pad] at read
        obtain ⟨front, four, behind, others, made⟩ := read
        rw [← made, encode_four four, encode_of_decode known others]

theorem decode_eq_some (known : variant ∈ all) : variant.decode chars = some bytes ↔ variant.encode bytes = chars := by
  constructor
  · exact encode_of_decode known
  · intro written
    rw [← written, decode_encode known]

end Variant

variable {order : List Variant} {chars : List Char} {bytes : Bytes} {text : String}

/-- What some variants read in turn is what one of them writes. -/
theorem findSome?_decode_eq_some (known : ∀ variant ∈ order, variant ∈ Variant.all) :
    (order.findSome? fun variant => variant.decode chars) = some bytes ↔
      ∃ variant ∈ order, variant.encode bytes = chars := by
  constructor
  · intro found
    obtain ⟨variant, tried, read⟩ := List.exists_of_findSome?_eq_some found
    exact ⟨variant, tried, (Variant.decode_eq_some (known variant tried)).mp read⟩
  · intro written
    obtain ⟨variant, tried, written⟩ := written
    apply findSome?_decode known tried
    exact (Variant.decode_eq_some (known variant tried)).mpr written

theorem findSome?_decode_perm (same : order.Perm Variant.all) :
    (order.findSome? fun variant => variant.decode chars) =
      Variant.all.findSome? fun variant => variant.decode chars := by
  apply Option.ext
  intro bytes
  calc (order.findSome? fun variant => variant.decode chars) = some bytes
      ↔ ∃ variant ∈ order, variant.encode bytes = chars := findSome?_decode_eq_some fun _ => same.mem_iff.mp
    _ ↔ ∃ variant ∈ Variant.all, variant.encode bytes = chars := by simp only [same.mem_iff]
    _ ↔ (Variant.all.findSome? fun variant => variant.decode chars) = some bytes :=
      (findSome?_decode_eq_some fun _ known => known).symm

theorem decodeText?_eq_some :
    decodeText? chars = some text ↔ ∃ variant ∈ Variant.all, variant.encode (Bytes.ofText text) = chars := by
  calc decodeText? chars = some text
      ↔ ∃ bytes, (Variant.all.findSome? fun variant => variant.decode chars) = some bytes ∧ bytes.toText? = some text :=
      Option.bind_eq_some_iff
    _ ↔ ∃ bytes, (∃ variant ∈ Variant.all, variant.encode bytes = chars) ∧ Bytes.ofText text = bytes := by
      simp only [findSome?_decode_eq_some fun _ known => known, Bytes.toText?_eq_some]
    _ ↔ ∃ variant ∈ Variant.all, variant.encode (Bytes.ofText text) = chars := by simp

/-- Variants that read the same characters read the same bytes, so that they may be tried in any order. A text is read from
exactly what the variants write for it, whichever of them has written; and nothing is read where a colon is. -/
theorem decodes_in_any_order (chars : List Char) :
    (∀ first ∈ Variant.all, ∀ second ∈ Variant.all, ∀ bytes more,
      first.decode chars = some bytes → second.decode chars = some more → bytes = more) ∧
    (∀ order : List Variant, order.Perm Variant.all →
      (order.findSome? fun variant => variant.decode chars).bind Bytes.toText? = decodeText? chars) ∧
    (∀ text, decodeText? chars = some text ↔ ∃ variant ∈ Variant.all, variant.encode (Bytes.ofText text) = chars) ∧
    (':' ∈ chars → decodeText? chars = none) := by
  refine ⟨?_, ?_, ?_, ?_⟩
  · intro first known second also bytes more
    exact Variant.decode_agrees known also
  · intro order same
    rw [decodeText?, findSome?_decode_perm same]
  · intro text
    exact decodeText?_eq_some
  · intro colon
    exact decodeText?_foreign (by decide) colon

theorem decodes_in_any_order_question_marks :
    (∃ bytes more, (Variant.urlSafe true).decode "YWVz".toList = some bytes ∧
      (Variant.standard false).decode "YWVz".toList = some more ∧ bytes = more) ∧
    (Variant.all.reverse.findSome? fun variant => variant.decode "Pz8/".toList).bind Bytes.toText? = some "???" ∧
    decodeText? "aes-128-gcm:???".toList = none := by
  obtain ⟨agree, -⟩ := decodes_in_any_order "YWVz".toList
  obtain ⟨-, ordered, whole, -⟩ := decodes_in_any_order "Pz8/".toList
  obtain ⟨-, -, -, refused⟩ := decodes_in_any_order "aes-128-gcm:???".toList
  refine ⟨?_, ?_, refused (by decide)⟩
  · refine ⟨[97, 101, 115], [97, 101, 115], by decide, by decide, ?_⟩
    exact agree (.urlSafe true) (by decide) (.standard false) (by decide) _ _ (by decide) (by decide)
  · rw [ordered _ (List.reverse_perm _)]
    exact (whole "???").mpr ⟨.standard true, by decide, by decide +kernel⟩

end Base64
end SealedTunnel
