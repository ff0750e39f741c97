namespace SealedTunnel

abbrev Bytes := List UInt8

namespace Bytes

def ofText (text : String) : Bytes := text.toUTF8.data.toList

def toText? (bytes : Bytes) : Option String := String.fromUTF8? ⟨bytes.toArray⟩

/-- The low `width` bytes of a number, least significant first. -/
def ofNatLE : (width number : Nat) → Bytes
  | 0, _ => []
  | width + 1, number => UInt8.ofNat number :: ofNatLE width (number / 256)

def ofNatBE (width number : Nat) : Bytes := (ofNatLE width number).reverse

def toNatLE : Bytes → Nat
  | [] => 0
  | byte :: rest => byte.toNat + 256 * toNatLE rest

def toNatBE (bytes : Bytes) : Nat := bytes.foldl (fun number byte => number * 256 + byte.toNat) 0

def xor (left right : Bytes) : Bytes := List.zipWith (· ^^^ ·) left right

/-- Consecutive pieces of `size` bytes, the last of which may be shorter; none is empty. -/
def pieces (size : Nat) (bytes : Bytes) : List Bytes :=
  if _h : size = 0 ∨ bytes.isEmpty then []
  else bytes.take size :: pieces size (bytes.drop size)
termination_by bytes.length
decreasing_by
  simp only [List.isEmpty_iff, not_or] at _h
  have := List.length_pos_iff.2 _h.2
  simp only [List.length_drop]
  omega

def zeros (count : Nat) : Bytes := List.replicate count 0

def padTo (block : Nat) (bytes : Bytes) : Bytes :=
  bytes ++ zeros ((block - bytes.length % block) % block)

/-- `bytes` with the positions from `start` on overwritten by `patch`, as far as both reach. -/
def overwrite (bytes : Bytes) (start : Nat) (patch : Bytes) : Bytes :=
  bytes.take start ++ patch.take (bytes.length - start) ++ bytes.drop (start + patch.length)

def hexDigit (value : UInt8) : Char := Nat.digitChar value.toNat

def toHex (bytes : Bytes) : String :=
  String.ofList (bytes.flatMap fun byte : UInt8 => [hexDigit (byte >>> 4), hexDigit (byte &&& 15)])

def hexValue? (c : Char) : Option Nat :=
  if '0' ≤ c ∧ c ≤ '9' then some (c.toNat - '0'.toNat)
  else if 'a' ≤ c ∧ c ≤ 'f' then some (c.toNat - 'a'.toNat + 10)
  else if 'A' ≤ c ∧ c ≤ 'F' then some (c.toNat - 'A'.toNat + 10)
  else none

def ofHexDigits? : List Char → Option Bytes
  | [] => some []
  | [_] => none
  | high :: low :: rest => do
    let high ← hexValue? high
    let low ← hexValue? low
    let rest ← ofHexDigits? rest
    return UInt8.ofNat (high * 16 + low) :: rest

def ofHex? (text : String) : Option Bytes := ofHexDigits? text.toList

@[simp] theorem length_ofNatLE (width number : Nat) : (ofNatLE width number).length = width := by
  induction width generalizing number with
  | zero => rfl
  | succ width ih => simp [ofNatLE, ih]

@[simp] theorem length_ofNatBE (width number : Nat) : (ofNatBE width number).length = width := by
  simp [ofNatBE]

theorem length_zeros (count : Nat) : (zeros count).length = count := List.length_replicate

theorem length_xor (left right : Bytes) : (xor left right).length = min left.length right.length := by
  simp [xor]

theorem length_flatMap {α : Type} (items : List α) (write : α → Bytes) (size : Nat)
    (uniform : ∀ item, (write item).length = size) :
    (items.flatMap write).length = items.length * size := by
  induction items with
  | nil => simp
  | cons item items ih => simp [ih, uniform, Nat.succ_mul, Nat.add_comm]

theorem flatten_pieces (size : Nat) (positive : 0 < size) (bytes : Bytes) :
    (pieces size bytes).flatten = bytes := by
  fun_induction pieces size bytes with
  | case1 bytes empty =>
    have : bytes = [] := List.isEmpty_iff.1 (empty.resolve_left (Nat.ne_of_gt positive))
    simp [this]
  | case2 bytes full ih => simp [ih]

theorem xor_xor (bytes stream : Bytes) (covered : bytes.length ≤ stream.length) :
    xor (xor bytes stream) stream = bytes := by
  induction bytes generalizing stream with
  | nil => simp [xor]
  | cons byte bytes ih =>
    cases stream with
    | nil => simp at covered
    | cons mask stream =>
      have rest := ih stream (by simpa using covered)
      simp only [xor, List.zipWith_cons_cons] at rest ⊢
      rw [rest, UInt8.xor_assoc, UInt8.xor_self, UInt8.xor_zero]

end Bytes
end SealedTunnel
