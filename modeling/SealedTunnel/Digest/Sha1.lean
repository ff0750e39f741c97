import SealedTunnel.Digest.Md5

namespace SealedTunnel.Digest
namespace Sha1

structure State where
  a : UInt32
  b : UInt32
  c : UInt32
  d : UInt32
  e : UInt32
  deriving DecidableEq, Repr

def State.initial : State := ⟨0x67452301, 0xefcdab89, 0x98badcfe, 0x10325476, 0xc3d2e1f0⟩

def schedule (block : Bytes) : Array UInt32 :=
  let words := ((block.pieces 4).map fun word => UInt32.ofNat word.toNatBE).toArray
  (List.range 64).foldl (fun words i =>
    words.push <| rotateLeft
      (words.getD (i + 13) 0 ^^^ words.getD (i + 8) 0 ^^^ words.getD (i + 2) 0 ^^^ words.getD i 0) 1) words

def State.mix (state : State) (step : Nat) : UInt32 :=
  match step / 20 with
  | 0 => ((state.b &&& state.c) ||| (~~~state.b &&& state.d)) + 0x5a827999
  | 1 => (state.b ^^^ state.c ^^^ state.d) + 0x6ed9eba1
  | 2 => ((state.b &&& state.c) ||| (state.b &&& state.d) ||| (state.c &&& state.d)) + 0x8f1bbcdc
  | _ => (state.b ^^^ state.c ^^^ state.d) + 0xca62c1d6

def State.step (words : Array UInt32) (state : State) (step : Nat) : State :=
  ⟨rotateLeft state.a 5 + state.mix step + state.e + words.getD step 0,
    state.a, rotateLeft state.b 30, state.c, state.d⟩

def State.absorb (state : State) (block : Bytes) : State :=
  let mixed := (List.range 80).foldl (State.step (schedule block)) state
  ⟨state.a + mixed.a, state.b + mixed.b, state.c + mixed.c, state.d + mixed.d, state.e + mixed.e⟩

def State.toBytes (state : State) : Bytes :=
  [state.a, state.b, state.c, state.d, state.e].flatMap fun word => Bytes.ofNatBE 4 word.toNat

end Sha1

def sha1 (message : Bytes) : Bytes :=
  (((padded (Bytes.ofNatBE 8) message).pieces 64).foldl Sha1.State.absorb .initial).toBytes

def sha1Size : Nat := 20

@[simp] theorem length_sha1 (message : Bytes) : (sha1 message).length = sha1Size := by
  simp [sha1, Sha1.State.toBytes, sha1Size]

end SealedTunnel.Digest
