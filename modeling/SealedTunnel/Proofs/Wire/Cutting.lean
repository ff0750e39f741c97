import SealedTunnel.Proofs.Wire.Encoding

namespace SealedTunnel.Wire

/-- The payloads whose chunks end at or before `offset`, counted from where the first chunk begins. -/
def complete : List Bytes → (offset : Nat) → List Bytes
  | [], _ => []
  | payload :: rest, offset =>
    if frameSize payload ≤ offset then payload :: complete rest (offset - frameSize payload) else []

/-- Whether the first chunk begins at `offset`, or some chunk ends there. -/
def isBoundary : List Bytes → (offset : Nat) → Bool
  | [], offset => offset = 0
  | payload :: rest, offset =>
    offset = 0 || (frameSize payload ≤ offset && isBoundary rest (offset - frameSize payload))

def endAt (boundary : Bool) : End := if boundary then .whole else .truncated

def cut (saltSize : Nat) (payloads : List Bytes) (offset : Nat) : List Bytes × End :=
  if offset = 0 then ([], .whole)
  else if offset < saltSize then ([], .truncated)
  else (complete payloads (offset - saltSize), endAt (isBoundary payloads (offset - saltSize)))

theorem payloadLength_ofNatBE (payload : Bytes) (bounded : payload.length ≤ longestPayload) :
    payloadLength (Bytes.ofNatBE lengthSize payload.length) = payload.length := by
  have small : payload.length < longestPayload + 1 := Nat.lt_succ_of_le bounded
  have word : payload.length < 65536 := Nat.lt_of_lt_of_le small (by decide)
  rw [payloadLength, lengthSize, Bytes.toNatBE_ofNatBE_two _ word, Nat.mod_eq_of_lt small]

variable (session : Aead)

theorem decodeChunks_frame (count : Nat) (payload rest : Bytes) (bounded : payload.length ≤ longestPayload) :
    decodeChunks session count (session.message (.ofNat count) (Bytes.ofNatBE lengthSize payload.length) ++ rest) =
      decodeBody session (count + 1) payload.length rest := by
  have field : (session.message (.ofNat count) (Bytes.ofNatBE lengthSize payload.length)).length =
      lengthSize + tagSize := by simp
  have opened := session.decrypt_message (.ofNat count) _ (lengthField_short session payload)
  rw [decodeChunks_long session count _ (by rw [List.length_append, field]; omega),
    List.take_left' field, List.drop_left' field, opened]
  exact congrArg (decodeBody session (count + 1) · rest) (payloadLength_ofNatBE payload bounded)

theorem decodeBody_message (count : Nat) (payload rest : Bytes) (bounded : payload.length ≤ longestPayload) :
    decodeBody session count payload.length (session.message (.ofNat count) payload ++ rest) =
      (payload :: (decodeChunks session (count + 1) rest).1, (decodeChunks session (count + 1) rest).2) := by
  have body : (session.message (.ofNat count) payload).length = payload.length + tagSize := by simp
  have opened := session.decrypt_message (.ofNat count) payload (sealable session bounded)
  have long : ¬ (session.message (.ofNat count) payload ++ rest).length < payload.length + tagSize := by
    rw [List.length_append, body]
    omega
  rw [decodeBody, if_neg long, List.take_left' body, List.drop_left' body, opened]

theorem decodeChunks_incomplete (count : Nat) (payload rest : Bytes) (offset : Nat) (begun : 0 < offset)
    (short : offset < frameSize payload) (bounded : payload.length ≤ longestPayload) :
    decodeChunks session count ((frame session count payload ++ rest).take offset) = ([], .truncated) := by
  let field := session.message (.ofNat count) (Bytes.ofNatBE lengthSize payload.length)
  let body := session.message (.ofNat (count + 1)) payload
  have fieldLength : field.length = lengthSize + tagSize := by simp [field]
  have bodyLength : body.length = payload.length + tagSize := by simp [body]
  have whole : frame session count payload ++ rest = field ++ (body ++ rest) := by
    simp only [frame, field, body, List.append_assoc]
  have size : frameSize payload = lengthSize + tagSize + (payload.length + tagSize) := rfl
  rw [whole]
  by_cases early : offset < lengthSize + tagSize
  · have length : ((field ++ (body ++ rest)).take offset).length = offset := by
      simp only [List.length_take, List.length_append]
      omega
    apply decodeChunks_short
    · intro empty
      rw [empty] at length
      simp only [List.length_nil] at length
      omega
    · omega
  · have opened : (field ++ (body ++ rest)).take offset =
        field ++ (body ++ rest).take (offset - (lengthSize + tagSize)) := by
      rw [List.take_append, fieldLength, List.take_of_length_le (by omega)]
    have missing : ((body ++ rest).take (offset - (lengthSize + tagSize))).length <
        payload.length + tagSize := by
      simp only [List.length_take, List.length_append]
      omega
    rw [opened, decodeChunks_frame session count payload _ bounded, decodeBody, if_pos missing]

theorem decodeChunks_take (count : Nat) (payloads : List Bytes) (offset : Nat) (sendable : Sendable payloads)
    (inside : offset ≤ (frames session count payloads).length) :
    decodeChunks session count ((frames session count payloads).take offset) =
      (complete payloads offset, endAt (isBoundary payloads offset)) := by
  induction payloads generalizing count offset with
  | nil =>
      have start : offset = 0 := by simpa [frames] using inside
      subst offset
      exact decodeChunks_nil session count
  | cons payload rest ih =>
      have bounded := (sendable payload List.mem_cons_self).2
      have others : Sendable rest := fun other member => sendable other (List.mem_cons_of_mem _ member)
      have positive : 0 < frameSize payload := Nat.add_pos_left (by decide) _
      by_cases start : offset = 0
      · subst offset
        have none : complete (payload :: rest) 0 = [] := if_neg (Nat.not_le.mpr positive)
        rw [none]
        exact decodeChunks_nil session count
      · by_cases ended : frameSize payload ≤ offset
        · have split : (frames session count (payload :: rest)).take offset =
              frame session count payload ++
                (frames session (count + 2) rest).take (offset - frameSize payload) := by
            rw [frames, List.take_append, length_frame, List.take_of_length_le (by rw [length_frame]; exact ended)]
          have room : offset - frameSize payload ≤ (frames session (count + 2) rest).length := by
            rw [frames, List.length_append, length_frame] at inside
            omega
          rw [split, frame, List.append_assoc, decodeChunks_frame session count payload _ bounded,
            decodeBody_message session (count + 1) payload _ bounded, ih (count + 2) _ others room]
          simp [complete, isBoundary, ended, start]
        · have none : complete (payload :: rest) offset = [] := if_neg ended
          have unended : isBoundary (payload :: rest) offset = false := by simp [isBoundary, start, ended]
          rw [none, unended, frames, decodeChunks_incomplete session count payload _ offset (by omega) (by omega) bounded]
          rfl

/-- Of a stream that is cut off, the chunks that are complete can be had, and the end is a proper one
only where the salt or a chunk ends. -/
theorem decode_take {key : MasterKey} {salt : Bytes} (payloads : List Bytes) (offset : Nat)
    (begun : key.session salt = .ok session) (sized : salt.length = key.saltSize)
    (sendable : Sendable payloads) (inside : offset ≤ (salt ++ frames session 0 payloads).length) :
    decode key ((salt ++ frames session 0 payloads).take offset) = cut key.saltSize payloads offset := by
  have length : ((salt ++ frames session 0 payloads).take offset).length = offset := by
    rw [List.length_take]
    omega
  by_cases start : offset = 0
  · subst offset
    rfl
  have full : ¬ ((salt ++ frames session 0 payloads).take offset).isEmpty = true := by
    rw [List.isEmpty_iff_length_eq_zero, length]
    exact start
  rw [decode, if_neg full, cut, if_neg start, length]
  by_cases early : offset < key.saltSize
  · rw [if_pos early, if_pos early]
  · have split : (salt ++ frames session 0 payloads).take offset =
        salt ++ (frames session 0 payloads).take (offset - key.saltSize) := by
      rw [List.take_append, sized, List.take_of_length_le (by omega)]
    have room : offset - key.saltSize ≤ (frames session 0 payloads).length := by
      rw [List.length_append, sized] at inside
      omega
    rw [if_neg early, if_neg early, split, List.take_left' sized, List.drop_left' sized, begun]
    exact decodeChunks_take session 0 payloads _ sendable room

theorem complete_all (payloads : List Bytes) (count : Nat) :
    complete payloads (frames session count payloads).length = payloads ∧
      isBoundary payloads (frames session count payloads).length = true := by
  induction payloads generalizing count with
  | nil => exact ⟨rfl, rfl⟩
  | cons payload rest ih =>
      have later := ih (count + 2)
      have ended : frameSize payload ≤ (frames session count (payload :: rest)).length := by
        rw [frames, List.length_append, length_frame]
        omega
      have left : (frames session count (payload :: rest)).length - frameSize payload =
          (frames session (count + 2) rest).length := by
        rw [frames, List.length_append, length_frame]
        omega
      constructor
      · rw [complete, if_pos ended, left, later.1]
      · simp [isBoundary, ended, left, later.2]

theorem cut_all (salt : Bytes) (payloads : List Bytes) (some : salt ≠ []) :
    cut salt.length payloads (salt ++ frames session 0 payloads).length = (payloads, .whole) := by
  have positive : 0 < salt.length := List.length_pos_iff.mpr some
  have all := complete_all session payloads 0
  have late : ¬ (salt ++ frames session 0 payloads).length < salt.length := by simp
  have left : (salt ++ frames session 0 payloads).length - salt.length =
      (frames session 0 payloads).length := by
    rw [List.length_append]
    omega
  rw [cut, if_neg (by rw [List.length_append]; omega), if_neg late, left, all.1, all.2]
  rfl

end SealedTunnel.Wire
