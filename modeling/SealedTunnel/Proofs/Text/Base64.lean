import SealedTunnel.Base64
import SealedTunnel.Proofs.Address.Encoding
import SealedTunnel.Proofs.Text.Separators

/-!
What base64 brings back. Each variant reads what it writes, and no two of them read the same digits as different
bytes, so that it does not matter which of them is tried first.
-/
namespace SealedTunnel.Base64

namespace Variant

variable {variant other : Variant} {chars : List Char} {bytes more : Bytes} {c : Char} {m n : Nat}

theorem value?_digit : ∀ variant ∈ all, ∀ value < 64, variant.value? (variant.digit value) = some value := by
  decide +kernel

theorem value?_pad : ∀ variant ∈ all, variant.value? '=' = none := by
  decide

theorem lastDigits_of_mem (known : variant ∈ all) :
    variant.lastDigits = ('-', '_') ∨ variant.lastDigits = ('+', '/') := by
  revert variant
  decide

theorem value?_agrees (known : variant ∈ all) (also : other ∈ all)
    (first : variant.value? c = some m) (second : other.value? c = some n) : m = n := by
  unfold value? at first second
  by_cases upper : 'A' ≤ c ∧ c ≤ 'Z'
  · rw [if_pos upper] at first second
    exact Option.some.inj (first.symm.trans second)
  by_cases lower : 'a' ≤ c ∧ c ≤ 'z'
  · rw [if_neg upper, if_pos lower] at first second
    exact Option.some.inj (first.symm.trans second)
  by_cases number : '0' ≤ c ∧ c ≤ '9'
  · rw [if_neg upper, if_neg lower, if_pos number] at first second
    exact Option.some.inj (first.symm.trans second)
  · rw [if_neg upper, if_neg lower, if_neg number] at first second
    rcases lastDigits_of_mem known with last | last <;> rcases lastDigits_of_mem also with last' | last' <;>
      rw [last] at first <;> rw [last'] at second <;> grind

theorem digit_ne_pad (known : variant ∈ all) (small : n < 64) : variant.digit n ≠ '=' := by
  intro padded
  have read := value?_digit variant known n small
  rw [padded, value?_pad variant known] at read
  cases read

section Groups

variable {a b d : Char}

theorem decodeTwo_eq_some : variant.decodeTwo a b = some bytes ↔
    ∃ x, variant.value? a = some x ∧ ∃ y, variant.value? b = some y ∧
      y % 16 = 0 ∧ [UInt8.ofNat (x * 4 + y / 16)] = bytes := by
  simp only [decodeTwo, Option.bind_eq_bind, Option.bind_eq_some_iff, Option.ite_none_right_eq_some, Option.some.injEq]

theorem decodeThree_eq_some : variant.decodeThree a b c = some bytes ↔
    ∃ x, variant.value? a = some x ∧ ∃ y, variant.value? b = some y ∧ ∃ z, variant.value? c = some z ∧
      z % 4 = 0 ∧ [UInt8.ofNat (x * 4 + y / 16), UInt8.ofNat (y % 16 * 16 + z / 4)] = bytes := by
  simp only [decodeThree, Option.bind_eq_bind, Option.bind_eq_some_iff, Option.ite_none_right_eq_some,
    Option.some.injEq]

theorem decodeFour_eq_some : variant.decodeFour a b c d = some bytes ↔
    ∃ x, variant.value? a = some x ∧ ∃ y, variant.value? b = some y ∧ ∃ z, variant.value? c = some z ∧
      ∃ w, variant.value? d = some w ∧
        [UInt8.ofNat (x * 4 + y / 16), UInt8.ofNat (y % 16 * 16 + z / 4), UInt8.ofNat (z % 4 * 64 + w)] = bytes := by
  simp only [decodeFour, Option.bind_eq_bind, Option.bind_eq_some_iff, Option.pure_def, Option.some.injEq]

theorem decodeTwo_agrees (known : variant ∈ all) (also : other ∈ all)
    (first : variant.decodeTwo a b = some bytes) (second : other.decodeTwo a b = some more) : bytes = more := by
  obtain ⟨x, hx, y, hy, -, rfl⟩ := decodeTwo_eq_some.mp first
  obtain ⟨x', hx', y', hy', -, rfl⟩ := decodeTwo_eq_some.mp second
  rw [value?_agrees known also hx hx', value?_agrees known also hy hy']

theorem decodeThree_agrees (known : variant ∈ all) (also : other ∈ all)
    (first : variant.decodeThree a b c = some bytes) (second : other.decodeThree a b c = some more) : bytes = more := by
  obtain ⟨x, hx, y, hy, z, hz, -, rfl⟩ := decodeThree_eq_some.mp first
  obtain ⟨x', hx', y', hy', z', hz', -, rfl⟩ := decodeThree_eq_some.mp second
  rw [value?_agrees known also hx hx', value?_agrees known also hy hy', value?_agrees known also hz hz']

theorem decodeFour_agrees (known : variant ∈ all) (also : other ∈ all)
    (first : variant.decodeFour a b c d = some bytes) (second : other.decodeFour a b c d = some more) :
    bytes = more := by
  obtain ⟨x, hx, y, hy, z, hz, w, hw, rfl⟩ := decodeFour_eq_some.mp first
  obtain ⟨x', hx', y', hy', z', hz', w', hw', rfl⟩ := decodeFour_eq_some.mp second
  rw [value?_agrees known also hx hx', value?_agrees known also hy hy', value?_agrees known also hz hz',
    value?_agrees known also hw hw']

theorem decode_two : variant.decode [a, b] = some bytes ↔
    variant.isPadded = false ∧ variant.decodeTwo a b = some bytes := by
  simp [decode]

theorem decode_three : variant.decode [a, b, c] = some bytes ↔
    variant.isPadded = false ∧ variant.decodeThree a b c = some bytes := by
  simp [decode]

theorem decodeFour_pad (known : variant ∈ all) (a b c : Char) : variant.decodeFour a b c '=' = none := by
  apply Option.eq_none_iff_forall_ne_some.mpr
  intro bytes decoded
  obtain ⟨x, -, y, -, z, -, w, digit, -⟩ := decodeFour_eq_some.mp decoded
  rw [value?_pad variant known] at digit
  cases digit

/-- Four characters are four digits, unless the last of all is there to fill up. -/
theorem decode_four (known : variant ∈ all) {rest : List Char} :
    variant.decode (a :: b :: c :: d :: rest) = some bytes ↔
      if d = '=' then
        variant.isPadded ∧ rest = [] ∧
          (if c = '=' then variant.decodeTwo a b else variant.decodeThree a b c) = some bytes
      else
        ∃ front, variant.decodeFour a b c d = some front ∧
          ∃ behind, variant.decode rest = some behind ∧ front ++ behind = bytes := by
  rw [decode]
  by_cases pad : d = '='
  · subst pad
    by_cases ending : variant.isPadded ∧ rest = []
    · simp [ending]
    · have longer : ¬ (variant.isPadded ∧ rest.isEmpty ∧ '=' = '=') := by simpa using ending
      rw [if_neg longer, decodeFour_pad known]
      simpa using fun padded empty => absurd ⟨padded, empty⟩ ending
  · simp [pad, Option.bind_eq_some_iff]

end Groups

theorem decode_agrees (known : variant ∈ all) (also : other ∈ all) : ∀ {chars : List Char} {bytes more : Bytes},
    variant.decode chars = some bytes → other.decode chars = some more → bytes = more
  | [], _, _, first, second => by
      cases first
      cases second
      rfl
  | [_], _, _, first, _ => by cases first
  | [_, _], _, _, first, second =>
      decodeTwo_agrees known also (decode_two.mp first).2 (decode_two.mp second).2
  | [_, _, _], _, _, first, second =>
      decodeThree_agrees known also (decode_three.mp first).2 (decode_three.mp second).2
  | a :: b :: c :: d :: rest, _, _, first, second => by
      rw [decode_four known] at first
      rw [decode_four also] at second
      by_cases pad : d = '='
      · rw [if_pos pad] at first second
        obtain ⟨-, -, first⟩ := first
        obtain ⟨-, -, second⟩ := second
        by_cases fill : c = '='
        · rw [if_pos fill] at first second
          exact decodeTwo_agrees known also first second
        · rw [if_neg fill] at first second
          exact decodeThree_agrees known also first second
      · rw [if_neg pad] at first second
        obtain ⟨front, four, behind, others, rfl⟩ := first
        obtain ⟨front', four', behind', others', rfl⟩ := second
        rw [decodeFour_agrees known also four four', decode_agrees known also others others']

theorem value?_of_decode (known : variant ∈ all) : ∀ {chars : List Char} {bytes : Bytes},
    variant.decode chars = some bytes → ∀ c ∈ chars, c = '=' ∨ (variant.value? c).isSome
  | [], _, _ => by simp
  | [_], _, decoded => by cases decoded
  | [_, _], _, decoded => by
      obtain ⟨x, hx, y, hy, -⟩ := decodeTwo_eq_some.mp (decode_two.mp decoded).2
      simp [hx, hy]
  | [_, _, _], _, decoded => by
      obtain ⟨x, hx, y, hy, z, hz, -⟩ := decodeThree_eq_some.mp (decode_three.mp decoded).2
      simp [hx, hy, hz]
  | a :: b :: c :: d :: rest, _, decoded => by
      rw [decode_four known] at decoded
      by_cases pad : d = '='
      · rw [if_pos pad] at decoded
        obtain ⟨-, rfl, group⟩ := decoded
        by_cases fill : c = '='
        · rw [if_pos fill] at group
          obtain ⟨x, hx, y, hy, -⟩ := decodeTwo_eq_some.mp group
          simp [hx, hy, pad, fill]
        · rw [if_neg fill] at group
          obtain ⟨x, hx, y, hy, z, hz, -⟩ := decodeThree_eq_some.mp group
          simp [hx, hy, hz, pad]
      · rw [if_neg pad] at decoded
        obtain ⟨front, four, behind, others, -⟩ := decoded
        obtain ⟨x, hx, y, hy, z, hz, w, hw, -⟩ := decodeFour_eq_some.mp four
        simpa [hx, hy, hz, hw] using value?_of_decode known others

section Digits

variable {x y z : UInt8}

theorem ofNat_eq {n : Nat} (same : n = x.toNat) : UInt8.ofNat n = x := by
  rw [same, UInt8.ofNat_toNat]

theorem one_byte (known : variant ∈ all) :
    variant.decodeTwo (variant.digit (x.toNat / 4)) (variant.digit (x.toNat % 4 * 16)) = some [x] := by
  have hx := x.toNat_lt
  refine decodeTwo_eq_some.mpr
    ⟨_, value?_digit variant known _ (by omega), _, value?_digit variant known _ (by omega), by omega, ?_⟩
  rw [ofNat_eq (x := x) (by omega)]

theorem two_bytes (known : variant ∈ all) :
    variant.decodeThree (variant.digit (x.toNat / 4)) (variant.digit (x.toNat % 4 * 16 + y.toNat / 16))
      (variant.digit (y.toNat % 16 * 4)) = some [x, y] := by
  have hx := x.toNat_lt
  have hy := y.toNat_lt
  refine decodeThree_eq_some.mpr ⟨_, value?_digit variant known _ (by omega), _, value?_digit variant known _ (by omega),
    _, value?_digit variant known _ (by omega), by omega, ?_⟩
  rw [ofNat_eq (x := x) (by omega), ofNat_eq (x := y) (by omega)]

theorem three_bytes (known : variant ∈ all) :
    variant.decodeFour (variant.digit (x.toNat / 4)) (variant.digit (x.toNat % 4 * 16 + y.toNat / 16))
      (variant.digit (y.toNat % 16 * 4 + z.toNat / 64)) (variant.digit (z.toNat % 64)) = some [x, y, z] := by
  have hx := x.toNat_lt
  have hy := y.toNat_lt
  have hz := z.toNat_lt
  refine decodeFour_eq_some.mpr ⟨_, value?_digit variant known _ (by omega), _, value?_digit variant known _ (by omega),
    _, value?_digit variant known _ (by omega), _, value?_digit variant known _ (by omega), ?_⟩
  rw [ofNat_eq (x := x) (by omega), ofNat_eq (x := y) (by omega), ofNat_eq (x := z) (by omega)]

end Digits

theorem decode_encode (known : variant ∈ all) (bytes : Bytes) : variant.decode (variant.encode bytes) = some bytes := by
  fun_induction encode variant bytes with
  | case1 => rfl
  | case2 x =>
      by_cases padded : variant.isPadded
      · simpa [padding, padded] using (decode_four known).mpr (by simp [padded, one_byte known])
      · simpa [padding, padded] using decode_two.mpr ⟨by simpa using padded, one_byte known⟩
  | case3 x y =>
      have third := digit_ne_pad (n := y.toNat % 16 * 4) known (by omega)
      by_cases padded : variant.isPadded
      · simpa [padding, padded] using (decode_four known).mpr (by simp [padded, third, two_bytes known])
      · simpa [padding, padded] using decode_three.mpr ⟨by simpa using padded, two_bytes known⟩
  | case4 x y z rest ih =>
      have fourth := digit_ne_pad (n := z.toNat % 64) known (by omega)
      rw [decode_four known, if_neg fourth]
      exact ⟨_, three_bytes known, rest, ih, rfl⟩

end Variant

variable {variant : Variant} {chars : List Char} {bytes : Bytes} {c : Char}

def IsForeign (c : Char) : Prop := c ≠ '=' ∧ ∀ variant ∈ Variant.all, variant.value? c = none

instance (c : Char) : Decidable (IsForeign c) := inferInstanceAs (Decidable (_ ∧ _))

theorem decode_foreign (known : variant ∈ Variant.all) (foreign : IsForeign c) (member : c ∈ chars) :
    variant.decode chars = none := by
  cases decoded : variant.decode chars with
  | none => rfl
  | some bytes =>
      rcases Variant.value?_of_decode known decoded c member with pad | digit
      · exact absurd pad foreign.1
      · rw [foreign.2 variant known] at digit
        cases digit

theorem encode_foreign (known : variant ∈ Variant.all) (foreign : IsForeign c) (bytes : Bytes) :
    c ∉ variant.encode bytes := by
  intro member
  have decoded := Variant.decode_encode known bytes
  rw [decode_foreign known foreign member] at decoded
  cases decoded

theorem slash_urlSafe (padded : Bool) (bytes : Bytes) : '/' ∉ (Variant.urlSafe padded).encode bytes := by
  have known : Variant.urlSafe padded ∈ Variant.all := by cases padded <;> decide
  have unread : (Variant.urlSafe padded).value? '/' = none := by cases padded <;> decide
  intro member
  rcases Variant.value?_of_decode known (Variant.decode_encode known bytes) _ member with pad | digit
  · cases pad
  · rw [unread] at digit
    cases digit

theorem value?_visible (known : variant ∈ Variant.all) (digit : (variant.value? c).isSome) : Text.isVisible c := by
  have between : ∀ {low high : Char}, '!' ≤ low → high ≤ '~' → low ≤ c ∧ c ≤ high → Text.isVisible c := by
    intro low high least most bounds
    simp only [Text.isVisible, decide_eq_true_eq]
    exact ⟨Nat.le_trans least bounds.1, Nat.lt_succ_of_le (Nat.le_trans bounds.2 most)⟩
  have last : Text.isVisible variant.lastDigits.1 ∧ Text.isVisible variant.lastDigits.2 := by
    rcases Variant.lastDigits_of_mem known with last | last <;> rw [last] <;> decide
  unfold Variant.value? at digit
  repeat' split at digit
  case isTrue upper => exact between (by decide) (by decide) upper
  case isTrue lower => exact between (by decide) (by decide) lower
  case isTrue number => exact between (by decide) (by decide) number
  case isTrue plus => exact plus ▸ last.1
  case isTrue slash => exact slash ▸ last.2
  case isFalse => cases digit

theorem encode_visible (known : variant ∈ Variant.all) (bytes : Bytes) :
    ∀ c ∈ variant.encode bytes, Text.isVisible c := by
  intro c member
  rcases Variant.value?_of_decode known (Variant.decode_encode known bytes) c member with rfl | digit
  · decide
  · exact value?_visible known digit

/-- Whichever variant reads the characters first, the bytes are those that any other reads. -/
theorem findSome?_decode {order : List Variant} (known : ∀ other ∈ order, other ∈ Variant.all) (tried : variant ∈ order)
    (decoded : variant.decode chars = some bytes) : (order.findSome? fun other => other.decode chars) = some bytes := by
  cases found : order.findSome? fun other => other.decode chars with
  | none =>
      rw [List.findSome?_eq_none_iff.mp found variant tried] at decoded
      cases decoded
  | some more =>
      obtain ⟨other, also, read⟩ := List.exists_of_findSome?_eq_some found
      rw [Variant.decode_agrees (known other also) (known variant tried) read decoded]

theorem decodeText?_of_decode (known : variant ∈ Variant.all) (decoded : variant.decode chars = some bytes) :
    decodeText? chars = bytes.toText? := by
  rw [decodeText?, findSome?_decode (fun _ known => known) known decoded]
  rfl

theorem decodeText?_encode (known : variant ∈ Variant.all) (text : String) :
    decodeText? (variant.encode (Bytes.ofText text)) = some text := by
  rw [decodeText?_of_decode known (Variant.decode_encode known _), Bytes.toText?_ofText]

theorem decodeText?_foreign (foreign : IsForeign c) (member : c ∈ chars) : decodeText? chars = none := by
  have unread : (Variant.all.findSome? fun variant => variant.decode chars) = none :=
    List.findSome?_eq_none_iff.mpr fun variant known => decode_foreign known foreign member
  rw [decodeText?, unread]
  rfl

end SealedTunnel.Base64
