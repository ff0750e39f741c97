import SealedTunnel.Proofs.Crypto.Counter
import SealedTunnel.Proofs.Crypto.Opening
import SealedTunnel.Stream.Wire

namespace SealedTunnel

namespace Bytes

theorem mem_pieces {size : Nat} {bytes piece : Bytes} (member : piece ∈ pieces size bytes) :
    piece ≠ [] ∧ piece.length ≤ size := by
  fun_induction pieces size bytes with
  | case1 => cases member
  | case2 bytes full ih =>
      simp only [List.isEmpty_iff, not_or] at full
      rcases List.mem_cons.mp member with rfl | later
      · refine ⟨fun empty => ?_, by simp only [List.length_take]; omega⟩
        rcases List.take_eq_nil_iff.mp empty with zero | none
        · exact full.1 zero
        · exact full.2 none
      · exact ih later

theorem pieces_nil (size : Nat) : pieces size [] = [] := by simp [pieces]

theorem pieces_some {size : Nat} {bytes : Bytes} (positive : 0 < size) (some : bytes ≠ []) :
    pieces size bytes = bytes.take size :: pieces size (bytes.drop size) := by
  have full : ¬ (size = 0 ∨ bytes.isEmpty) := by
    rintro (zero | none)
    · omega
    · exact some (List.isEmpty_iff.mp none)
  rw [pieces, dif_neg full]

theorem pieces_short {size : Nat} {bytes : Bytes} (some : bytes ≠ []) (short : bytes.length ≤ size) :
    pieces size bytes = [bytes] := by
  have positive := Nat.lt_of_lt_of_le (List.length_pos_iff.mpr some) short
  rw [pieces_some positive some, List.take_of_length_le short, List.drop_of_length_le short, pieces_nil]

theorem toNatBE_ofNatBE_two (number : Nat) (small : number < 65536) :
    toNatBE (ofNatBE 2 number) = number := by
  simp only [toNatBE, ofNatBE, ofNatLE, List.reverse_cons, List.reverse_nil, List.nil_append,
    List.cons_append, List.foldl_cons, List.foldl_nil, UInt8.toNat_ofNat']
  omega

end Bytes

namespace Wire

def Sendable (payloads : List Bytes) : Prop :=
  ∀ payload ∈ payloads, payload ≠ [] ∧ payload.length ≤ longestPayload

theorem Sendable.append {first second : List Bytes} (one : Sendable first) (two : Sendable second) :
    Sendable (first ++ second) := by
  intro payload member
  rcases List.mem_append.mp member with early | late
  · exact one payload early
  · exact two payload late

theorem sendable_pieces (data : Bytes) : Sendable (data.pieces longestPayload) :=
  fun _ member => Bytes.mem_pieces member

theorem flatten_pieces_longest (data : Bytes) : (data.pieces longestPayload).flatten = data :=
  Bytes.flatten_pieces longestPayload (by decide) data

/-- The bytes of a chunk whose length is sealed under nonce `count`. -/
def frame (session : Aead) (count : Nat) (payload : Bytes) : Bytes :=
  session.message (.ofNat count) (Bytes.ofNatBE lengthSize payload.length) ++
    session.message (.ofNat (count + 1)) payload

def frames (session : Aead) : (count : Nat) → List Bytes → Bytes
  | _, [] => []
  | count, payload :: rest => frame session count payload ++ frames session (count + 2) rest

def frameSize (payload : Bytes) : Nat := lengthSize + tagSize + (payload.length + tagSize)

@[simp] theorem length_frame (session : Aead) (count : Nat) (payload : Bytes) :
    (frame session count payload).length = frameSize payload := by
  simp [frame, frameSize]

theorem frames_append (session : Aead) (count : Nat) (first second : List Bytes) :
    frames session count (first ++ second) =
      frames session count first ++ frames session (count + 2 * first.length) second := by
  induction first generalizing count with
  | nil => rfl
  | cons payload rest ih =>
      have counted : count + 2 + 2 * rest.length = count + 2 * (payload :: rest).length := by
        simp only [List.length_cons]
        omega
      simp only [List.cons_append, frames, ih, counted, List.append_assoc]

theorem frames_pieces (session : Aead) (count : Nat) {data : Bytes} (some : data ≠ []) :
    frames session count (data.pieces longestPayload) = frame session count (data.take longestPayload) ++
      frames session (count + 2) (Bytes.pieces longestPayload (data.drop longestPayload)) := by
  rw [Bytes.pieces_some (by decide) some, frames]

section Sealing

variable (session : Aead)

theorem sealable {size : Nat} (bounded : size ≤ longestPayload) : size ≤ session.kind.sealLimit := by
  refine Nat.le_trans bounded ?_
  cases session.kind <;> decide

theorem lengthField_short (payload : Bytes) :
    (Bytes.ofNatBE lengthSize payload.length).length ≤ session.kind.sealLimit :=
  sealable session (by rw [Bytes.length_ofNatBE]; decide)

theorem chunk_eq (count : Nat) (payload : Bytes) (bounded : payload.length ≤ longestPayload) :
    chunk session (.ofNat count) payload = .ok (frame session count payload, .ofNat (count + 2)) := by
  simp only [chunk, Nonce.next_ofNat, session.encrypt_eq _ _ (lengthField_short session payload),
    session.encrypt_eq _ _ (sealable session bounded)]
  rfl

/-- Sealing chunks of proper size cannot fail, and takes two nonces for each. -/
theorem chunks_eq (count : Nat) (payloads : List Bytes) (sendable : Sendable payloads) :
    chunks session (.ofNat count) payloads =
      .ok (frames session count payloads, .ofNat (count + 2 * payloads.length)) := by
  induction payloads generalizing count with
  | nil => rfl
  | cons payload rest ih =>
      have bounded := (sendable payload List.mem_cons_self).2
      have later := ih (count + 2) (fun other member => sendable other (List.mem_cons_of_mem _ member))
      have counted : count + 2 + 2 * rest.length = count + 2 * (payload :: rest).length := by
        simp only [List.length_cons]
        omega
      rw [← counted]
      simp only [chunks, chunk_eq session count payload bounded]
      change (chunks session (.ofNat (count + 2)) rest).bind _ = _
      rw [later]
      rfl

end Sealing

theorem encode_eq {key : MasterKey} {salt : Bytes} {session : Aead} {payloads : List Bytes}
    (begun : key.session salt = .ok session) (sendable : Sendable payloads) :
    encode key salt payloads = .ok (salt ++ frames session 0 payloads) := by
  have sealed := chunks_eq session 0 payloads sendable
  rw [← Nonce.zero_eq_ofNat] at sealed
  simp only [encode, begun]
  change (chunks session .zero payloads).bind _ = _
  rw [sealed]
  rfl

def decodeBody (session : Aead) (count size : Nat) (bytes : Bytes) : List Bytes × End :=
  if bytes.length < size + tagSize then ([], .truncated)
  else
    match session.decrypt (.ofNat count) (bytes.take (size + tagSize)) with
    | .error _ => ([], .refused)
    | .ok payload =>
      let rest := decodeChunks session (count + 1) (bytes.drop (size + tagSize))
      (payload :: rest.1, rest.2)

theorem decodeChunks_nil (session : Aead) (count : Nat) : decodeChunks session count [] = ([], .whole) := by
  rw [decodeChunks]
  rfl

theorem decodeChunks_short (session : Aead) (count : Nat) (bytes : Bytes) (some : bytes ≠ [])
    (short : bytes.length < lengthSize + tagSize) : decodeChunks session count bytes = ([], .truncated) := by
  have full : ¬ bytes.isEmpty = true := by simpa using some
  rw [decodeChunks, if_neg full]
  exact if_pos short

theorem decodeChunks_long (session : Aead) (count : Nat) (bytes : Bytes)
    (long : lengthSize + tagSize ≤ bytes.length) :
    decodeChunks session count bytes =
      match session.decrypt (.ofNat count) (bytes.take (lengthSize + tagSize)) with
      | .error _ => ([], .refused)
      | .ok length =>
        decodeBody session (count + 1) (payloadLength length) (bytes.drop (lengthSize + tagSize)) := by
  have full : ¬ bytes.isEmpty = true := by
    intro empty
    rw [List.isEmpty_iff.mp empty] at long
    exact absurd long (by decide)
  rw [decodeChunks, if_neg full]
  dsimp only
  rw [if_neg (Nat.not_lt.mpr long)]
  rfl

end Wire
end SealedTunnel
