import SealedTunnel.Digest.Md5

namespace SealedTunnel.Cipher.ChaCha20

open Digest (rotateLeft)

/-- Four words of the state, one from each column. -/
structure Row where
  w0 : UInt32
  w1 : UInt32
  w2 : UInt32
  w3 : UInt32
  deriving DecidableEq, Repr

namespace Row

def add (x y : Row) : Row := ⟨x.w0 + y.w0, x.w1 + y.w1, x.w2 + y.w2, x.w3 + y.w3⟩

def xorRotate (x y : Row) (count : UInt32) : Row :=
  ⟨rotateLeft (x.w0 ^^^ y.w0) count, rotateLeft (x.w1 ^^^ y.w1) count,
    rotateLeft (x.w2 ^^^ y.w2) count, rotateLeft (x.w3 ^^^ y.w3) count⟩

def shift (x : Row) : Row := ⟨x.w1, x.w2, x.w3, x.w0⟩

def toBytes (x : Row) : Bytes :=
  [x.w0, x.w1, x.w2, x.w3].flatMap fun word => Bytes.ofNatLE 4 word.toNat

def ofBytes (bytes : Bytes) : Row :=
  let word (i : Nat) := UInt32.ofNat (Bytes.toNatLE ((bytes.drop (4 * i)).take 4))
  ⟨word 0, word 1, word 2, word 3⟩

end Row

structure State where
  a : Row
  b : Row
  c : Row
  d : Row
  deriving DecidableEq, Repr

def State.quarter (s : State) : State :=
  let a := s.a.add s.b
  let d := s.d.xorRotate a 16
  let c := s.c.add d
  let b := s.b.xorRotate c 12
  let a := a.add b
  let d := d.xorRotate a 8
  let c := c.add d
  let b := b.xorRotate c 7
  ⟨a, b, c, d⟩

/-- A round on the columns, then one on the diagonals. -/
def State.doubleRound (s : State) : State :=
  let s := s.quarter
  let s := State.quarter ⟨s.a, s.b.shift, s.c.shift.shift, s.d.shift.shift.shift⟩
  ⟨s.a, s.b.shift.shift.shift, s.c.shift.shift, s.d.shift⟩

def State.initial (key nonce : Bytes) (counter : Nat) : State :=
  ⟨⟨0x61707865, 0x3320646e, 0x79622d32, 0x6b206574⟩, Row.ofBytes key, Row.ofBytes (key.drop 16),
    Row.ofBytes (Bytes.ofNatLE 4 counter ++ nonce)⟩

def block (key nonce : Bytes) (counter : Nat) : Bytes :=
  let start := State.initial key nonce counter
  let mixed := Nat.repeat State.doubleRound 10 start
  (mixed.a.add start.a).toBytes ++ (mixed.b.add start.b).toBytes ++
    (mixed.c.add start.c).toBytes ++ (mixed.d.add start.d).toBytes

def blockSize : Nat := 64

def keystream (key nonce : Bytes) (counter length : Nat) : Bytes :=
  ((List.range ((length + 63) / 64)).flatMap fun i => block key nonce (counter + i)).take length

@[simp] theorem Row.length_toBytes (x : Row) : x.toBytes.length = 16 := by simp [Row.toBytes]

@[simp] theorem length_block (key nonce : Bytes) (counter : Nat) :
    (block key nonce counter).length = 64 := by simp [block]

@[simp] theorem length_keystream (key nonce : Bytes) (counter length : Nat) :
    (keystream key nonce counter length).length = length := by
  rw [keystream, List.length_take, Bytes.length_flatMap _ _ 64 (by simp), List.length_range]
  omega

end SealedTunnel.Cipher.ChaCha20
