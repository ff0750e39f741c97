import SealedTunnel.Bytes

/-!
Reading bytes as UTF-8 although they may not be. Each longest beginning of a character that is not
completed stands for one replacement character.
-/
namespace SealedTunnel.Text

def replacement : Char := '\uFFFD'

/-- What may follow a leading byte: how many bytes, and the bounds of the first of them. -/
structure Continuation where
  count : Nat
  lowest : UInt8
  highest : UInt8
  deriving DecidableEq, Repr

/-- The bounds leave out overlong forms, surrogates, and what lies beyond the last character. -/
def continuation? (lead : UInt8) : Option Continuation :=
  if lead < 0xc2 then none
  else if lead < 0xe0 then some ⟨1, 0x80, 0xbf⟩
  else if lead = 0xe0 then some ⟨2, 0xa0, 0xbf⟩
  else if lead = 0xed then some ⟨2, 0x80, 0x9f⟩
  else if lead < 0xf0 then some ⟨2, 0x80, 0xbf⟩
  else if lead = 0xf0 then some ⟨3, 0x90, 0xbf⟩
  else if lead < 0xf4 then some ⟨3, 0x80, 0xbf⟩
  else if lead = 0xf4 then some ⟨3, 0x80, 0x8f⟩
  else none

def continuing (expected : Continuation) (bytes : Bytes) : Bytes :=
  match expected.count, bytes with
  | 0, _ | _, [] => []
  | count + 1, first :: rest =>
    if first < expected.lowest ∨ expected.highest < first then []
    else first :: (rest.take count).takeWhile fun byte : UInt8 => 0x80 ≤ byte ∧ byte ≤ 0xbf

def assembled (lead : UInt8) (rest : Bytes) : Char :=
  let high := lead.toNat % Nat.pow 2 (6 - rest.length)
  Char.ofNat (rest.foldl (fun number byte => number * 64 + byte.toNat % 64) high)

def decodeChars (bytes : Bytes) : List Char :=
  match bytes with
  | [] => []
  | lead :: rest =>
    if lead < 0x80 then Char.ofNat lead.toNat :: decodeChars rest
    else
      match continuation? lead with
      | none => replacement :: decodeChars rest
      | some expected =>
        let found := continuing expected rest
        let c := if found.length = expected.count then assembled lead found else replacement
        c :: decodeChars (rest.drop found.length)
termination_by bytes.length
decreasing_by all_goals simp only [List.length_cons, List.length_drop]; omega

def decodeLossy (bytes : Bytes) : String := String.ofList (decodeChars bytes)

end SealedTunnel.Text
