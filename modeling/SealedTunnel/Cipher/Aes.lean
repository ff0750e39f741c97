import SealedTunnel.Bytes

/-! The AES block cipher, forward direction, with keys of 16, 24 or 32 bytes. -/
namespace SealedTunnel.Cipher.Aes

/-- The substitution of each byte: its inverse in the field of 256 elements, then an affine map. -/
def substitution : Array UInt8 := #[
  0x63, 0x7c, 0x77, 0x7b, 0xf2, 0x6b, 0x6f, 0xc5, 0x30, 0x01, 0x67, 0x2b, 0xfe, 0xd7, 0xab, 0x76,
  0xca, 0x82, 0xc9, 0x7d, 0xfa, 0x59, 0x47, 0xf0, 0xad, 0xd4, 0xa2, 0xaf, 0x9c, 0xa4, 0x72, 0xc0,
  0xb7, 0xfd, 0x93, 0x26, 0x36, 0x3f, 0xf7, 0xcc, 0x34, 0xa5, 0xe5, 0xf1, 0x71, 0xd8, 0x31, 0x15,
  0x04, 0xc7, 0x23, 0xc3, 0x18, 0x96, 0x05, 0x9a, 0x07, 0x12, 0x80, 0xe2, 0xeb, 0x27, 0xb2, 0x75,
  0x09, 0x83, 0x2c, 0x1a, 0x1b, 0x6e, 0x5a, 0xa0, 0x52, 0x3b, 0xd6, 0xb3, 0x29, 0xe3, 0x2f, 0x84,
  0x53, 0xd1, 0x00, 0xed, 0x20, 0xfc, 0xb1, 0x5b, 0x6a, 0xcb, 0xbe, 0x39, 0x4a, 0x4c, 0x58, 0xcf,
  0xd0, 0xef, 0xaa, 0xfb, 0x43, 0x4d, 0x33, 0x85, 0x45, 0xf9, 0x02, 0x7f, 0x50, 0x3c, 0x9f, 0xa8,
  0x51, 0xa3, 0x40, 0x8f, 0x92, 0x9d, 0x38, 0xf5, 0xbc, 0xb6, 0xda, 0x21, 0x10, 0xff, 0xf3, 0xd2,
  0xcd, 0x0c, 0x13, 0xec, 0x5f, 0x97, 0x44, 0x17, 0xc4, 0xa7, 0x7e, 0x3d, 0x64, 0x5d, 0x19, 0x73,
  0x60, 0x81, 0x4f, 0xdc, 0x22, 0x2a, 0x90, 0x88, 0x46, 0xee, 0xb8, 0x14, 0xde, 0x5e, 0x0b, 0xdb,
  0xe0, 0x32, 0x3a, 0x0a, 0x49, 0x06, 0x24, 0x5c, 0xc2, 0xd3, 0xac, 0x62, 0x91, 0x95, 0xe4, 0x79,
  0xe7, 0xc8, 0x37, 0x6d, 0x8d, 0xd5, 0x4e, 0xa9, 0x6c, 0x56, 0xf4, 0xea, 0x65, 0x7a, 0xae, 0x08,
  0xba, 0x78, 0x25, 0x2e, 0x1c, 0xa6, 0xb4, 0xc6, 0xe8, 0xdd, 0x74, 0x1f, 0x4b, 0xbd, 0x8b, 0x8a,
  0x70, 0x3e, 0xb5, 0x66, 0x48, 0x03, 0xf6, 0x0e, 0x61, 0x35, 0x57, 0xb9, 0x86, 0xc1, 0x1d, 0x9e,
  0xe1, 0xf8, 0x98, 0x11, 0x69, 0xd9, 0x8e, 0x94, 0x9b, 0x1e, 0x87, 0xe9, 0xce, 0x55, 0x28, 0xdf,
  0x8c, 0xa1, 0x89, 0x0d, 0xbf, 0xe6, 0x42, 0x68, 0x41, 0x99, 0x2d, 0x0f, 0xb0, 0x54, 0xbb, 0x16]

def substitute (byte : UInt8) : UInt8 := substitution.getD byte.toNat 0

/-- A column of four bytes, the first in the high bits. -/
abbrev Column := UInt32

namespace Column

def byte (column : Column) (row : Nat) : UInt8 := (column >>> UInt32.ofNat (24 - 8 * row)).toUInt8

def ofBytes (b0 b1 b2 b3 : UInt8) : Column :=
  (b0.toUInt32 <<< 24) ||| (b1.toUInt32 <<< 16) ||| (b2.toUInt32 <<< 8) ||| b3.toUInt32

def toBytes (column : Column) : Bytes := Bytes.ofNatBE 4 column.toNat

def substituted (column : Column) : Column :=
  ofBytes (substitute (byte column 0)) (substitute (byte column 1))
    (substitute (byte column 2)) (substitute (byte column 3))

def rotated (column : Column) : Column := (column <<< 8) ||| (column >>> 24)

def double (column : Column) : Column :=
  let carried := (column >>> 7) &&& 0x01010101
  ((column &&& 0x7f7f7f7f) <<< 1) ^^^ (carried * 0x1b)

/-- The column times the fixed polynomial with coefficients 2, 3, 1, 1. -/
def mixed (column : Column) : Column :=
  let doubled := double column
  doubled ^^^ rotated (doubled ^^^ column) ^^^ rotated (rotated column) ^^^ rotated (rotated (rotated column))

end Column

structure Block where
  c0 : Column
  c1 : Column
  c2 : Column
  c3 : Column
  deriving DecidableEq, Repr

namespace Block

def xor (x y : Block) : Block := ⟨x.c0 ^^^ y.c0, x.c1 ^^^ y.c1, x.c2 ^^^ y.c2, x.c3 ^^^ y.c3⟩

def toBytes (x : Block) : Bytes := [x.c0, x.c1, x.c2, x.c3].flatMap Column.toBytes

def ofBytes (bytes : Bytes) : Block :=
  let word (i : Nat) := UInt32.ofNat (Bytes.toNatBE (((bytes.drop (4 * i)).take 4)))
  ⟨word 0, word 1, word 2, word 3⟩

def shiftedRows (x : Block) : Block :=
  let column (a b c d : Column) := Column.ofBytes (substitute (Column.byte a 0))
    (substitute (Column.byte b 1)) (substitute (Column.byte c 2)) (substitute (Column.byte d 3))
  ⟨column x.c0 x.c1 x.c2 x.c3, column x.c1 x.c2 x.c3 x.c0,
    column x.c2 x.c3 x.c0 x.c1, column x.c3 x.c0 x.c1 x.c2⟩

def mixedColumns (x : Block) : Block :=
  ⟨Column.mixed x.c0, Column.mixed x.c1, Column.mixed x.c2, Column.mixed x.c3⟩

@[simp] theorem length_toBytes (x : Block) : x.toBytes.length = 16 := by
  simp [toBytes, Column.toBytes]

end Block

/-- The words of the key schedule: those of the key, then each made from the one before it and the
one a key length back. -/
def scheduleWords (key : Bytes) (count : Nat) : Array Column :=
  let start := ((key.pieces 4).map fun word => UInt32.ofNat word.toNatBE).toArray
  let size := start.size
  let grown := (List.range (count - size)).foldl (fun (state : Array Column × Column) _ =>
    let (words, constant) := state
    let i := words.size
    let last := words.getD (i - 1) 0
    let (last, constant) :=
      if i % size = 0 then (Column.substituted (Column.rotated last) ^^^ constant, Column.double constant)
      else if size > 6 ∧ i % size = 4 then (Column.substituted last, constant)
      else (last, constant)
    (words.push (words.getD (i - size) 0 ^^^ last), constant)) (start, 0x01000000)
  grown.1

structure Schedule where
  first : Block
  middle : List Block
  final : Block
  deriving Repr

def Schedule.ofKey (key : Bytes) : Schedule :=
  let rounds := key.length / 4 + 6
  let words := scheduleWords key (4 * (rounds + 1))
  let roundKey (i : Nat) : Block :=
    ⟨words.getD (4 * i) 0, words.getD (4 * i + 1) 0, words.getD (4 * i + 2) 0, words.getD (4 * i + 3) 0⟩
  ⟨roundKey 0, (List.range (rounds - 1)).map fun i => roundKey (i + 1), roundKey rounds⟩

def Schedule.encrypt (schedule : Schedule) (block : Block) : Block :=
  let mixed := schedule.middle.foldl
    (fun block key => block.shiftedRows.mixedColumns.xor key) (block.xor schedule.first)
  mixed.shiftedRows.xor schedule.final

end SealedTunnel.Cipher.Aes
