import SealedTunnel.Proofs.Text.Separators
import SealedTunnel.Proofs.Text.Utf8
import SealedTunnel.Url.Query

/-!
A name and a value that are written into a query are read back, whatever characters they hold: what would end a field, a
pair or the query is escaped, and so is a plus sign, which stands for a blank.
-/
namespace SealedTunnel.Url

open Text (isVisible)
open Text.Percent (encode escaped upperHexDigit)

variable {c : Char} {name value text : String}

section Fields

def isBareField (byte : UInt8) : Bool := byte = 0x20 ∨ isPlainField byte

def unplus (c : Char) : Char := if c = '+' then ' ' else c

def isFieldChar (c : Char) : Bool := isVisible c ∧ c ≠ '&' ∧ c ≠ '=' ∧ c ≠ '#'

theorem isPlain_bare : Text.Percent.IsPlain isBareField := by
  have all : ∀ code < 256, isBareField (UInt8.ofNat code) → code < 0x80 ∧ UInt8.ofNat code ≠ 0x25 := by
    decide +kernel
  intro byte bare
  have known := all byte.toNat byte.toNat_lt
  rw [UInt8.ofNat_toNat] at known
  exact known bare

theorem plain_kept {byte : UInt8} (plain : isPlainField byte) :
    unplus (Char.ofNat byte.toNat) = Char.ofNat byte.toNat ∧ isFieldChar (Char.ofNat byte.toNat) := by
  have all : ∀ code < 256, isPlainField (UInt8.ofNat code) →
      unplus (Char.ofNat code) = Char.ofNat code ∧ isFieldChar (Char.ofNat code) := by
    decide +kernel
  have known := all byte.toNat byte.toNat_lt
  rw [UInt8.ofNat_toNat] at known
  exact known plain

theorem escaped_kept (byte : UInt8) : (escaped byte).map unplus = escaped byte ∧ ∀ c ∈ escaped byte, isFieldChar c := by
  have digits : ∀ value < 16, unplus (upperHexDigit value) = upperHexDigit value ∧ isFieldChar (upperHexDigit value) := by
    decide
  have small := byte.toNat_lt
  have high := digits (byte.toNat / 16) (by omega)
  have low := digits (byte.toNat % 16) (by omega)
  constructor
  · rw [escaped, List.map_cons, List.map_cons, List.map_cons, high.1, low.1]
    rfl
  · simp only [escaped, List.mem_cons, List.not_mem_nil, or_false]
    rintro c (rfl | rfl | rfl)
    · decide
    · exact high.2
    · exact low.2

/-- With blanks for plus signs a field holds its bytes, some of them escaped. -/
theorem unplus_writeField (text : String) : (writeField text).map unplus = encode isBareField (Bytes.ofText text) := by
  have each (byte : UInt8) :
      (if byte = 0x20 then ['+'] else if isPlainField byte then [Char.ofNat byte.toNat] else escaped byte).map unplus =
        if isBareField byte then [Char.ofNat byte.toNat] else escaped byte := by
    by_cases blank : byte = 0x20
    · subst blank
      rfl
    by_cases plain : isPlainField byte
    · simp [isBareField, blank, plain, (plain_kept plain).1]
    · simp [isBareField, blank, plain, (escaped_kept byte).1]
  rw [writeField, encode, List.map_flatMap]
  exact congrArg (List.flatMap · (Bytes.ofText text)) (funext each)

theorem isFieldChar_writeField (text : String) : ∀ c ∈ writeField text, isFieldChar c := by
  intro c member
  obtain ⟨byte, -, written⟩ := List.mem_flatMap.mp member
  split at written
  · rw [List.mem_singleton.mp written]
    decide
  split at written
  · next plain =>
      rw [List.mem_singleton.mp written]
      exact (plain_kept plain).2
  · exact (escaped_kept byte).2 c written

theorem readField_writeField (text : String) : readField (writeField text) = text := by
  have bytes := Text.Percent.decode_encode isPlain_bare (Bytes.ofText text)
  rw [← unplus_writeField] at bytes
  exact (congrArg Text.decodeLossy bytes).trans (Text.decodeLossy_ofText text)

end Fields

section Pairs

theorem toList_writePair (name value : String) :
    (writePair name value).toList = writeField name ++ '=' :: writeField value :=
  String.toList_ofList

theorem mem_writePair (member : c ∈ (writePair name value).toList) : isVisible c ∧ c ≠ '&' ∧ c ≠ '#' := by
  rw [toList_writePair, List.mem_append, List.mem_cons] at member
  rcases member with member | rfl | member
  · have known := isFieldChar_writeField name c member
    simp only [isFieldChar, decide_eq_true_eq] at known
    exact ⟨known.1, known.2.1, known.2.2.2⟩
  · decide
  · have known := isFieldChar_writeField value c member
    simp only [isFieldChar, decide_eq_true_eq] at known
    exact ⟨known.1, known.2.1, known.2.2.2⟩

theorem readPair_writePair (name value : String) : readPair (writePair name value).toList = (name, value) := by
  have absent : '=' ∉ writeField name := fun member => absurd (isFieldChar_writeField name '=' member) (by decide)
  rw [readPair, toList_writePair, Text.splitFirst?_append absent]
  simp only [readField_writeField]

theorem queryPairs_writePair (name value : String) : queryPairs (writePair name value) = [(name, value)] := by
  have whole : '&' ∉ (writePair name value).toList := fun member => (mem_writePair member).2.1 rfl
  have full : (writePair name value).toList.isEmpty = false := by simp [toList_writePair]
  rw [queryPairs, Text.pieces_absent whole]
  simp [full, readPair_writePair]

theorem queryOf_writePair (name value : String) :
    queryOf ('?' :: (writePair name value).toList) = some (writePair name value) := by
  have unended : ('?' :: (writePair name value).toList).takeWhile (· ≠ '#') = '?' :: (writePair name value).toList := by
    rw [List.takeWhile_eq_self_iff]
    intro c member
    rcases List.mem_cons.mp member with rfl | member
    · decide
    · exact decide_eq_true (mem_writePair member).2.2
  rw [queryOf, unended]
  simp [Text.splitFirst?]

end Pairs
end SealedTunnel.Url
