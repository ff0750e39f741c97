import SealedTunnel.Digest.Sha1

namespace SealedTunnel.Digest

/-- A key brought to the block size of the digest: a longer one is hashed first. -/
def blockKey (key : Bytes) : Bytes :=
  let key := if key.length > 64 then sha1 key else key
  key ++ Bytes.zeros (64 - key.length)

def hmacSha1 (key message : Bytes) : Bytes :=
  let key := blockKey key
  sha1 (key.map (· ^^^ 0x5c) ++ sha1 (key.map (· ^^^ 0x36) ++ message))

@[simp] theorem length_hmacSha1 (key message : Bytes) : (hmacSha1 key message).length = sha1Size := by
  simp [hmacSha1]

def extract (salt : Option Bytes) (material : Bytes) : Bytes :=
  hmacSha1 (salt.getD (Bytes.zeros sha1Size)) material

def expandBlocks (condensed info : Bytes) : (blocks counter : Nat) → (last : Bytes) → Bytes
  | 0, _, _ => []
  | blocks + 1, counter, last =>
    let next := hmacSha1 condensed (last ++ info ++ [UInt8.ofNat counter])
    next ++ expandBlocks condensed info blocks (counter + 1) next

/-- The longest output: the block counter is one byte. -/
def expandLimit : Nat := 255 * sha1Size

def expand? (condensed info : Bytes) (length : Nat) : Option Bytes :=
  if length > expandLimit then none
  else some ((expandBlocks condensed info ((length + sha1Size - 1) / sha1Size) 1 []).take length)

theorem length_expandBlocks (condensed info : Bytes) (blocks counter : Nat) (last : Bytes) :
    (expandBlocks condensed info blocks counter last).length = blocks * sha1Size := by
  induction blocks generalizing counter last with
  | zero => simp [expandBlocks]
  | succ blocks ih => simp [expandBlocks, ih, Nat.succ_mul, Nat.add_comm]

theorem length_of_expand? {condensed info : Bytes} {length : Nat} {output : Bytes}
    (done : expand? condensed info length = some output) : output.length = length := by
  unfold expand? at done
  split at done
  · simp at done
  · simp only [Option.some.injEq] at done
    subst done
    simp only [List.length_take, length_expandBlocks, sha1Size]
    omega

end SealedTunnel.Digest
