import SealedTunnel.Bytes

namespace SealedTunnel.Digest

/-- Words rotated by `count` bits, `0 < count < 32`. -/
def rotateLeft (word count : UInt32) : UInt32 := (word <<< count) ||| (word >>> (32 - count))

def padded (lengthField : Nat → Bytes) (message : Bytes) : Bytes :=
  let marked := message ++ [0x80]
  marked ++ Bytes.zeros ((120 - marked.length % 64) % 64) ++ lengthField (message.length * 8)

namespace Md5

structure State where
  a : UInt32
  b : UInt32
  c : UInt32
  d : UInt32
  deriving DecidableEq, Repr

def State.initial : State := ⟨0x67452301, 0xefcdab89, 0x98badcfe, 0x10325476⟩

def sines : Array UInt32 := #[
  0xd76aa478, 0xe8c7b756, 0x242070db, 0xc1bdceee,
  0xf57c0faf, 0x4787c62a, 0xa8304613, 0xfd469501,
  0x698098d8, 0x8b44f7af, 0xffff5bb1, 0x895cd7be,
  0x6b901122, 0xfd987193, 0xa679438e, 0x49b40821,
  0xf61e2562, 0xc040b340, 0x265e5a51, 0xe9b6c7aa,
  0xd62f105d, 0x02441453, 0xd8a1e681, 0xe7d3fbc8,
  0x21e1cde6, 0xc33707d6, 0xf4d50d87, 0x455a14ed,
  0xa9e3e905, 0xfcefa3f8, 0x676f02d9, 0x8d2a4c8a,
  0xfffa3942, 0x8771f681, 0x6d9d6122, 0xfde5380c,
  0xa4beea44, 0x4bdecfa9, 0xf6bb4b60, 0xbebfbc70,
  0x289b7ec6, 0xeaa127fa, 0xd4ef3085, 0x04881d05,
  0xd9d4d039, 0xe6db99e5, 0x1fa27cf8, 0xc4ac5665,
  0xf4292244, 0x432aff97, 0xab9423a7, 0xfc93a039,
  0x655b59c3, 0x8f0ccc92, 0xffeff47d, 0x85845dd1,
  0x6fa87e4f, 0xfe2ce6e0, 0xa3014314, 0x4e0811a1,
  0xf7537e82, 0xbd3af235, 0x2ad7d2bb, 0xeb86d391]

def shifts : Array UInt32 := #[7, 12, 17, 22, 5, 9, 14, 20, 4, 11, 16, 23, 6, 10, 15, 21]

def State.mix (state : State) (step : Nat) : UInt32 :=
  match step / 16 with
  | 0 => (state.b &&& state.c) ||| (~~~state.b &&& state.d)
  | 1 => (state.d &&& state.b) ||| (~~~state.d &&& state.c)
  | 2 => state.b ^^^ state.c ^^^ state.d
  | _ => state.c ^^^ (state.b ||| ~~~state.d)

def wordIndex (step : Nat) : Nat :=
  match step / 16 with
  | 0 => step
  | 1 => (5 * step + 1) % 16
  | 2 => (3 * step + 5) % 16
  | _ => (7 * step) % 16

def State.step (words : Array UInt32) (state : State) (step : Nat) : State :=
  let sum := state.a + state.mix step + sines.getD step 0 + words.getD (wordIndex step) 0
  let shift := shifts.getD (step / 16 * 4 + step % 4) 0
  ⟨state.d, state.b + rotateLeft sum shift, state.b, state.c⟩

def blockWords (block : Bytes) : Array UInt32 :=
  ((block.pieces 4).map fun word => UInt32.ofNat word.toNatLE).toArray

def State.absorb (state : State) (block : Bytes) : State :=
  let mixed := (List.range 64).foldl (State.step (blockWords block)) state
  ⟨state.a + mixed.a, state.b + mixed.b, state.c + mixed.c, state.d + mixed.d⟩

def State.toBytes (state : State) : Bytes :=
  [state.a, state.b, state.c, state.d].flatMap fun word => Bytes.ofNatLE 4 word.toNat

end Md5

def md5 (message : Bytes) : Bytes :=
  (((padded (Bytes.ofNatLE 8) message).pieces 64).foldl Md5.State.absorb .initial).toBytes

def md5Size : Nat := 16

@[simp] theorem length_md5 (message : Bytes) : (md5 message).length = md5Size := by
  simp [md5, Md5.State.toBytes, md5Size]

end SealedTunnel.Digest
