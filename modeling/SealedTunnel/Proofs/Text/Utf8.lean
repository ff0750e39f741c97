import Mathlib.Data.List.TakeWhile
import SealedTunnel.Proofs.Text.Percent
import SealedTunnel.Text.Utf8

/-!
Text in its UTF-8 form is read back as it is: each leading byte tells how many bytes follow, the bounds of the first of
them leave out no character, and nothing is replaced.
-/
namespace SealedTunnel.Text

variable {lead first : UInt8} {others : Bytes} {expected : Continuation}

section Leads

theorem continuation?_two : ∀ lead < 0xe0, 0xc2 ≤ lead → continuation? (UInt8.ofNat lead) = some ⟨1, 0x80, 0xbf⟩ := by
  decide +kernel

theorem continuation?_three : ∀ lead < 0xf0, 0xe0 ≤ lead → continuation? (UInt8.ofNat lead) =
    some ⟨2, if lead = 0xe0 then 0xa0 else 0x80, if lead = 0xed then 0x9f else 0xbf⟩ := by
  decide +kernel

theorem continuation?_four : ∀ lead < 0xf5, 0xf0 ≤ lead → continuation? (UInt8.ofNat lead) =
    some ⟨3, if lead = 0xf0 then 0x90 else 0x80, if lead = 0xf4 then 0x8f else 0xbf⟩ := by
  decide +kernel

theorem continuation?_ascii : ∀ lead < 0x80, continuation? (UInt8.ofNat lead) = none := by
  decide +kernel

theorem not_ascii (known : continuation? lead = some expected) : ¬ lead < 0x80 := by
  intro ascii
  have none := continuation?_ascii lead.toNat (UInt8.lt_iff_toNat_lt.mp ascii)
  rw [UInt8.ofNat_toNat, known] at none
  cases none

end Leads

/-- Bytes that complete a character: the first within its bounds, the others within those that all have in common. -/
structure Completes (expected : Continuation) (first : UInt8) (others : Bytes) : Prop where
  count : expected.count = others.length + 1
  lowest : expected.lowest.toNat ≤ first.toNat
  highest : first.toNat ≤ expected.highest.toNat
  tails : ∀ byte ∈ others, 0x80 ≤ byte.toNat ∧ byte.toNat ≤ 0xbf

theorem continuing_completes (completes : Completes expected first others) (rest : Bytes) :
    continuing expected (first :: (others ++ rest)) = first :: others := by
  have inside : ¬ (first < expected.lowest ∨ expected.highest < first) := by
    rw [UInt8.lt_iff_toNat_lt, UInt8.lt_iff_toNat_lt, not_or]
    exact ⟨Nat.not_lt.mpr completes.lowest, Nat.not_lt.mpr completes.highest⟩
  have tails : others.takeWhile (fun byte : UInt8 => 0x80 ≤ byte ∧ byte ≤ 0xbf) = others := by
    rw [List.takeWhile_eq_self_iff]
    intro byte member
    simp only [UInt8.le_iff_toNat_le, decide_eq_true_eq]
    exact completes.tails byte member
  simp only [continuing, completes.count, if_neg inside, List.take_left, tails]

theorem decodeChars_completes (known : continuation? lead = some expected) (first : UInt8) (others : Bytes)
    (completes : Completes expected first others) (rest : Bytes) :
    decodeChars (lead :: first :: (others ++ rest)) = assembled lead (first :: others) :: decodeChars rest := by
  have found := continuing_completes completes rest
  have complete : (first :: others).length = expected.count := by rw [completes.count, List.length_cons]
  have behind : (first :: (others ++ rest)).drop (first :: others).length = rest := by
    rw [← List.cons_append, List.drop_left]
  rw [decodeChars]
  simp only [if_neg (not_ascii known), known, found, if_pos complete, behind]

section Chars

variable {number : Nat}

theorem decodeChars_two (low : 0x80 ≤ number) (high : number < 0x800) (rest : Bytes) :
    decodeChars (UInt8.ofNat (number / 64 % 0x20 + 0xc0) :: UInt8.ofNat (number % 64 + 0x80) :: rest) =
      Char.ofNat number :: decodeChars rest := by
  have known := continuation?_two (number / 64 % 0x20 + 0xc0) (by omega) (by omega)
  have completes : Completes ⟨1, 0x80, 0xbf⟩ (UInt8.ofNat (number % 64 + 0x80)) [] := by
    refine ⟨rfl, ?_, ?_, by simp⟩ <;> simp <;> omega
  have put : assembled (UInt8.ofNat (number / 64 % 0x20 + 0xc0)) [UInt8.ofNat (number % 64 + 0x80)] =
      Char.ofNat number := by
    simp [assembled]
    congr 1
    omega
  exact put ▸ decodeChars_completes known _ [] completes rest

theorem decodeChars_three (low : 0x800 ≤ number) (high : number < 0x10000)
    (whole : number < 0xd800 ∨ 0xdfff < number) (rest : Bytes) :
    decodeChars (UInt8.ofNat (number / 4096 % 0x10 + 0xe0) :: UInt8.ofNat (number / 64 % 64 + 0x80) ::
      UInt8.ofNat (number % 64 + 0x80) :: rest) = Char.ofNat number :: decodeChars rest := by
  have known := continuation?_three (number / 4096 % 0x10 + 0xe0) (by omega) (by omega)
  have put : assembled (UInt8.ofNat (number / 4096 % 0x10 + 0xe0))
      [UInt8.ofNat (number / 64 % 64 + 0x80), UInt8.ofNat (number % 64 + 0x80)] = Char.ofNat number := by
    simp [assembled]
    congr 1
    omega
  refine put ▸ decodeChars_completes known _ [UInt8.ofNat (number % 64 + 0x80)] ⟨rfl, ?_, ?_, ?_⟩ rest
  · dsimp only
    split <;> simp <;> omega
  · dsimp only
    split <;> simp <;> omega
  · simp
    omega

theorem decodeChars_four (low : 0x10000 ≤ number) (high : number < 0x110000) (rest : Bytes) :
    decodeChars (UInt8.ofNat (number / 262144 % 8 + 0xf0) :: UInt8.ofNat (number / 4096 % 64 + 0x80) ::
      UInt8.ofNat (number / 64 % 64 + 0x80) :: UInt8.ofNat (number % 64 + 0x80) :: rest) =
      Char.ofNat number :: decodeChars rest := by
  have known := continuation?_four (number / 262144 % 8 + 0xf0) (by omega) (by omega)
  have put : assembled (UInt8.ofNat (number / 262144 % 8 + 0xf0)) [UInt8.ofNat (number / 4096 % 64 + 0x80),
      UInt8.ofNat (number / 64 % 64 + 0x80), UInt8.ofNat (number % 64 + 0x80)] = Char.ofNat number := by
    simp [assembled]
    congr 1
    omega
  refine put ▸ decodeChars_completes known _ [UInt8.ofNat (number / 64 % 64 + 0x80), UInt8.ofNat (number % 64 + 0x80)]
    ⟨rfl, ?_, ?_, ?_⟩ rest
  · dsimp only
    split <;> simp <;> omega
  · dsimp only
    split <;> simp <;> omega
  · simp
    omega

theorem decodeChars_utf8EncodeChar (c : Char) (rest : Bytes) :
    decodeChars (String.utf8EncodeChar c ++ rest) = c :: decodeChars rest := by
  have valid : c.toNat < 0xd800 ∨ 0xdfff < c.toNat ∧ c.toNat < 0x110000 := c.valid
  have number : c.val.toNat = c.toNat := rfl
  have same : Char.ofNat c.toNat = c := Char.ofNat_toNat c
  simp only [String.utf8EncodeChar, number]
  split
  case isTrue ascii =>
    have byte : (UInt8.ofNat c.toNat).toNat = c.toNat := UInt8.toNat_ofNat_of_lt' (Nat.lt_of_le_of_lt ascii (by decide))
    have small : UInt8.ofNat c.toNat < 0x80 := by
      rw [UInt8.lt_iff_toNat_lt, byte]
      exact Nat.lt_succ_of_le ascii
    rw [List.singleton_append, decodeChars, if_pos small, byte, same]
  split
  case isTrue two => exact (decodeChars_two (by omega) (by omega) rest).trans (by rw [same])
  split
  case isTrue three => exact (decodeChars_three (by omega) (by omega) (by omega) rest).trans (by rw [same])
  case isFalse => exact (decodeChars_four (by omega) (by omega) rest).trans (by rw [same])

end Chars

theorem decodeChars_flatMap (chars : List Char) : decodeChars (chars.flatMap String.utf8EncodeChar) = chars := by
  induction chars with
  | nil => rw [List.flatMap_nil, decodeChars]
  | cons c rest ih => rw [List.flatMap_cons, decodeChars_utf8EncodeChar, ih]

theorem ofText_ofList (chars : List Char) : Bytes.ofText (String.ofList chars) = chars.flatMap String.utf8EncodeChar := by
  have bytes : (String.ofList chars).toByteArray = (chars.flatMap String.utf8EncodeChar).toByteArray := rfl
  rw [Bytes.ofText, String.toUTF8_eq_toByteArray, bytes, List.data_toByteArray]

theorem mem_ofText_ascii {byte : UInt8} {chars : List Char} (member : byte ∈ Bytes.ofText (String.ofList chars))
    (ascii : byte.toNat < 0x80) : Char.ofNat byte.toNat ∈ chars := by
  rw [ofText_ofList] at member
  obtain ⟨c, found, part⟩ := List.mem_flatMap.mp member
  have number : c.val.toNat = c.toNat := rfl
  simp only [String.utf8EncodeChar, number] at part
  split at part
  case isTrue small =>
    rw [List.mem_singleton.mp part, UInt8.toNat_ofNat_of_lt' (Nat.lt_of_le_of_lt small (by decide)), Char.ofNat_toNat]
    exact found
  case isFalse wide =>
    have high : 0x80 ≤ byte.toNat := by
      split at part
      · simp only [List.mem_cons, List.not_mem_nil, or_false] at part
        rcases part with rfl | rfl <;> simp <;> omega
      split at part
      · simp only [List.mem_cons, List.not_mem_nil, or_false] at part
        rcases part with rfl | rfl | rfl <;> simp <;> omega
      · simp only [List.mem_cons, List.not_mem_nil, or_false] at part
        rcases part with rfl | rfl | rfl | rfl <;> simp <;> omega
    exact absurd ascii (Nat.not_lt.mpr high)

theorem decodeLossy_ofText (text : String) : decodeLossy (Bytes.ofText text) = text := by
  have bytes := ofText_ofList text.toList
  rw [String.ofList_toList] at bytes
  rw [decodeLossy, bytes, decodeChars_flatMap, String.ofList_toList]

end SealedTunnel.Text
