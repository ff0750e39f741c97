import SealedTunnel.MasterKey

/-!
The bytes of one direction of a stream: a salt, then chunks. A chunk is its sealed length, two bytes
with the most significant first, and its sealed payload; nonces count the seals.
-/
namespace SealedTunnel.Wire

/-- The longest payload of a chunk, which is also the mask of a received length. -/
def longestPayload : Nat := 0x3fff

def lengthSize : Nat := 2

def chunk (session : Aead) (nonce : Nonce) (payload : Bytes) : Except Fault (Bytes × Nonce) := do
  let length ← session.encrypt nonce (Bytes.ofNatBE lengthSize payload.length)
  let body ← session.encrypt nonce.next payload
  return (length ++ body, nonce.next.next)

def chunks (session : Aead) : Nonce → List Bytes → Except Fault (Bytes × Nonce)
  | nonce, [] => .ok ([], nonce)
  | nonce, payload :: rest => do
    let (first, nonce) ← chunk session nonce payload
    let (others, nonce) ← chunks session nonce rest
    return (first ++ others, nonce)

def encode (key : MasterKey) (salt : Bytes) (payloads : List Bytes) : Except Fault Bytes := do
  let session ← key.session salt
  let (sealed, _) ← chunks session .zero payloads
  return salt ++ sealed

inductive End
  /-- Behind the salt or a chunk, or before anything came. -/
  | whole
  | truncated
  | refused
  deriving DecidableEq, Repr

def payloadLength (length : Bytes) : Nat := length.toNatBE % (longestPayload + 1)

/-- The payloads of the chunks, the first of which has its length sealed under nonce `count`. -/
def decodeChunks (session : Aead) (count : Nat) (bytes : Bytes) : List Bytes × End :=
  if bytes.isEmpty then ([], .whole)
  else
    let head := lengthSize + tagSize
    if bytes.length < head then ([], .truncated)
    else
      match session.decrypt (Nonce.ofNat count) (bytes.take head) with
      | .error _ => ([], .refused)
      | .ok length =>
        let body := payloadLength length + tagSize
        let rest := bytes.drop head
        if rest.length < body then ([], .truncated)
        else
          match session.decrypt (Nonce.ofNat (count + 1)) (rest.take body) with
          | .error _ => ([], .refused)
          | .ok payload =>
            let (payloads, ending) := decodeChunks session (count + 2) (rest.drop body)
            (payload :: payloads, ending)
termination_by bytes.length
decreasing_by
  have := (List.length_drop : rest.length = bytes.length - head)
  have positive : 0 < head := by decide
  simp only [List.length_drop]
  omega

/-- The payloads of a stream, as far as they can be opened, and how it ends. -/
def decode (key : MasterKey) (bytes : Bytes) : List Bytes × End :=
  if bytes.isEmpty then ([], .whole)
  else if bytes.length < key.saltSize then ([], .truncated)
  else
    match key.session (bytes.take key.saltSize) with
    | .error _ => ([], .refused)
    | .ok session => decodeChunks session 0 (bytes.drop key.saltSize)

end SealedTunnel.Wire
