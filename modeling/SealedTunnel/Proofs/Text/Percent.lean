import SealedTunnel.Proofs.Address.Encoding
import SealedTunnel.Text.Percent

/-!
Percent escapes undone. Text without a percent sign stands for itself, and bytes that were escaped come back.
-/
namespace SealedTunnel

theorem Bytes.ofText_eq_nil {text : String} : ofText text = [] ↔ text = "" := by
  rw [← List.length_eq_zero_iff, length_ofText, String.utf8ByteSize_eq_zero_iff]

namespace Text.Percent

variable {c : Char} {chars : List Char} {plain : UInt8 → Bool} {byte : UInt8} {bytes : Bytes}

theorem ofText_cons (c : Char) (rest : List Char) :
    Bytes.ofText (String.ofList (c :: rest)) = utf8 c ++ Bytes.ofText (String.ofList rest) := by
  simp [Bytes.ofText, utf8, String.ofList_cons]

theorem forall_mem_encode {P : Char → Prop} (percent : P '%') (digits : ∀ value < 16, P (upperHexDigit value))
    (kept : ∀ byte ∈ bytes, plain byte → P (Char.ofNat byte.toNat)) : ∀ c ∈ encode plain bytes, P c := by
  intro c member
  obtain ⟨byte, within, written⟩ := List.mem_flatMap.mp member
  have small := byte.toNat_lt
  split at written
  · rename_i left
    rw [List.mem_singleton.mp written]
    exact kept byte within left
  · simp only [escaped, List.mem_cons, List.not_mem_nil, or_false] at written
    rcases written with rfl | rfl | rfl
    · exact percent
    · exact digits _ (by omega)
    · exact digits _ (by omega)

theorem encode_eq_nil : encode plain bytes = [] ↔ bytes = [] := by
  cases bytes with
  | nil => simp [encode]
  | cons byte rest =>
      simp only [encode, List.flatMap_cons, List.append_eq_nil_iff, reduceCtorEq, iff_false, not_and]
      intro front
      split at front <;> cases front

theorem decode_cons (other : c ≠ '%') (rest : List Char) : decode (c :: rest) = utf8 c ++ decode rest := by
  rw [decode.eq_def]
  split
  · rename_i same
    cases same
  · rename_i same
    cases same
    exact absurd rfl other
  · rename_i same
    cases same
    rfl

theorem decode_unescaped (absent : '%' ∉ chars) : decode chars = Bytes.ofText (String.ofList chars) := by
  induction chars with
  | nil => rfl
  | cons c rest ih =>
      obtain ⟨other, later⟩ := List.ne_and_not_mem_of_not_mem_cons absent
      rw [decode_cons (Ne.symm other), ih later, ofText_cons]

theorem decodeText?_unescaped (absent : '%' ∉ chars) : decodeText? chars = some (String.ofList chars) := by
  rw [decodeText?, decode_unescaped absent, Bytes.toText?_ofText]

theorem hexValue?_upperHexDigit : ∀ value < 16, Bytes.hexValue? (upperHexDigit value) = some value := by
  decide

theorem decode_escaped (byte : UInt8) (rest : List Char) : decode (escaped byte ++ rest) = byte :: decode rest := by
  have small := byte.toNat_lt
  have high := hexValue?_upperHexDigit (byte.toNat / 16) (by omega)
  have low := hexValue?_upperHexDigit (byte.toNat % 16) (by omega)
  have whole : byte.toNat / 16 * 16 + byte.toNat % 16 = byte.toNat := by omega
  rw [escaped, List.cons_append, List.cons_append, List.cons_append, List.nil_append, decode, high, low]
  simp only [whole, UInt8.ofNat_toNat]

def IsPlain (plain : UInt8 → Bool) : Prop := ∀ byte : UInt8, plain byte → byte.toNat < 0x80 ∧ byte ≠ 0x25

theorem utf8_ascii : ∀ code < 0x80, utf8 (Char.ofNat code) = [UInt8.ofNat code] := by
  decide +kernel

theorem encode_plain (ascii : ∀ c ∈ chars, c.toNat < 0x80) (kept : ∀ c ∈ chars, plain (UInt8.ofNat c.toNat)) :
    encode plain (Bytes.ofText (String.ofList chars)) = chars := by
  induction chars with
  | nil => rfl
  | cons c rest ih =>
      obtain ⟨small, others⟩ := List.forall_mem_cons.mp ascii
      obtain ⟨left, leaves⟩ := List.forall_mem_cons.mp kept
      have byte := utf8_ascii c.toNat small
      rw [Char.ofNat_toNat] at byte
      have number : (UInt8.ofNat c.toNat).toNat = c.toNat := UInt8.toNat_ofNat_of_lt' (Nat.lt_trans small (by decide))
      rw [ofText_cons, byte, encode, List.flatMap_append, ← encode, ← encode, ih others leaves]
      simp [encode, left, number]

theorem ascii_ne_percent : ∀ code < 0x80, code ≠ 0x25 → Char.ofNat code ≠ '%' := by
  decide +kernel

theorem decode_encode (safe : IsPlain plain) (bytes : Bytes) : decode (encode plain bytes) = bytes := by
  induction bytes with
  | nil => rfl
  | cons byte rest ih =>
      rw [encode, List.flatMap_cons, ← encode]
      split
      · rename_i kept
        obtain ⟨ascii, other⟩ := safe byte kept
        have percent : byte.toNat ≠ 0x25 := fun same => other (UInt8.toNat_inj.mp same)
        rw [List.singleton_append, decode_cons (ascii_ne_percent _ ascii percent), utf8_ascii _ ascii, ih,
          UInt8.ofNat_toNat, List.singleton_append]
      · rw [decode_escaped, ih]

theorem decodeText?_encode (safe : IsPlain plain) (text : String) :
    decodeText? (encode plain (Bytes.ofText text)) = some text := by
  rw [decodeText?, decode_encode safe, Bytes.toText?_ofText]

end Text.Percent
end SealedTunnel
