import SealedTunnel.Proofs.Stream.Hearing
import SealedTunnel.Proofs.Wire.Encoding

/-!
Reading follows decoding. However a source cuts, stalls and fails, a reader delivers the payloads that
decoding all the bytes at once gives, in order, and then tells how they end.
-/
namespace SealedTunnel

def Wire.End.answer : Wire.End → Poll (Except IoError Bytes)
  | .whole => .ready (.ok [])
  | .truncated => .ready (.error Reader.midChunk)
  | .refused => .ready (.error Reader.refusal)

theorem Wire.End.answer_eq_refusal {ending : Wire.End} (refused : ending.answer = .ready (.error Reader.refusal)) :
    ending = .refused := by
  cases ending with
  | whole => cases refused
  | truncated => simp [answer, Reader.midChunk, Reader.refusal] at refused
  | refused => rfl

structure Reading where
  room : Nat
  answer : Poll (Except IoError Bytes)
  interruptions : List Interruption

namespace Reading

def bytes (reading : Reading) : Bytes :=
  match reading.answer with
  | .ready (.ok bytes) => bytes
  | _ => []

def delivered (readings : List Reading) : Bytes := readings.flatMap bytes

/-- Whether the reading had room, and the source let it come to something. -/
def isEffective (reading : Reading) : Bool := 0 < reading.room && reading.interruptions.isEmpty

def Refused (reading : Reading) : Prop :=
  reading.interruptions = [] ∧ reading.answer = .ready (.error Reader.refusal)

/-- Readings take bytes from the front, at least one if they have room, and are told of the ending
when none is left. An interrupted reading answers with its one interruption and takes nothing. -/
inductive Follow : Bytes → Wire.End → List Reading → Prop
  | start {bytes : Bytes} {ending : Wire.End} : Follow bytes ending []
  | piece {piece bytes : Bytes} {ending : Wire.End} {room : Nat} {later : List Reading}
      (fits : piece.length ≤ room) (some : 0 < room → piece ≠ []) (rest : Follow bytes ending later) :
      Follow (piece ++ bytes) ending (⟨room, .ready (.ok piece), []⟩ :: later)
  | ended {ending : Wire.End} {room : Nat} {later : List Reading} (wide : 0 < room)
      (rest : Follow [] ending later) : Follow [] ending (⟨room, ending.answer, []⟩ :: later)
  | interrupted {bytes : Bytes} {ending : Wire.End} {room : Nat} {later : List Reading}
      (interruption : Interruption) (rest : Follow bytes ending later) :
      Follow bytes ending (⟨room, interruption.answer, [interruption]⟩ :: later)

theorem bytes_interrupted (room : Nat) (interruption : Interruption) :
    (⟨room, interruption.answer, [interruption]⟩ : Reading).bytes = [] := by
  cases interruption <;> rfl

theorem bytes_ended (room : Nat) (ending : Wire.End) : (⟨room, ending.answer, []⟩ : Reading).bytes = [] := by
  cases ending <;> rfl

theorem Follow.beginning {bytes : Bytes} {ending : Wire.End} {readings : List Reading}
    (follow : Follow bytes ending readings) : delivered readings <+: bytes := by
  induction follow with
  | start => exact List.nil_prefix
  | piece fits some rest ih => exact (List.prefix_append_right_inj _).mpr ih
  | ended wide rest ih =>
      rw [delivered, List.flatMap_cons, bytes_ended]
      exact ih
  | interrupted interruption rest ih =>
      rw [delivered, List.flatMap_cons, bytes_interrupted]
      exact ih

theorem Follow.complete {bytes : Bytes} {ending : Wire.End} {readings : List Reading}
    (follow : Follow bytes ending readings) (enough : bytes.length ≤ readings.countP isEffective) :
    delivered readings = bytes := by
  induction follow with
  | start => exact (List.eq_nil_of_length_eq_zero (Nat.le_zero.mp enough)).symm
  | @piece piece bytes ending room later fits some rest ih =>
      -- An effective reading brings at least one byte, one without room brings none.
      refine congrArg (piece ++ ·) (ih ?_)
      rw [List.length_append] at enough
      by_cases wide : 0 < room
      · have long : 0 < piece.length := List.length_pos_iff.mpr (some wide)
        rw [List.countP_cons_of_pos (by simp [isEffective, wide])] at enough
        omega
      · rw [List.countP_cons_of_neg (by simp [isEffective, wide])] at enough
        omega
  | ended wide rest ih =>
      have nothing := List.prefix_nil.mp rest.beginning
      rw [delivered, List.flatMap_cons, bytes_ended]
      exact nothing
  | interrupted interruption rest ih =>
      rw [List.countP_cons_of_neg (by simp [isEffective])] at enough
      rw [delivered, List.flatMap_cons, bytes_interrupted]
      exact ih enough

theorem Follow.split {bytes : Bytes} {ending : Wire.End} {early late : List Reading}
    (follow : Follow bytes ending (early ++ late)) :
    ∃ rest, bytes = delivered early ++ rest ∧ Follow bytes ending early ∧ Follow rest ending late := by
  induction early generalizing bytes with
  | nil => exact ⟨bytes, rfl, .start, follow⟩
  | cons reading early ih =>
      cases follow with
      | @piece piece bytes _ room _ fits some following =>
          obtain ⟨rest, rfl, before, after⟩ := ih following
          exact ⟨rest, (List.append_assoc piece _ rest).symm, .piece fits some before, after⟩
      | ended wide following =>
          obtain ⟨rest, nothing, before, after⟩ := ih following
          refine ⟨rest, ?_, .ended wide before, after⟩
          rw [delivered, List.flatMap_cons, bytes_ended]
          exact nothing
      | interrupted interruption following =>
          obtain ⟨rest, same, before, after⟩ := ih following
          refine ⟨rest, ?_, .interrupted interruption before, after⟩
          rw [delivered, List.flatMap_cons, bytes_interrupted]
          exact same

theorem Follow.settled {ending : Wire.End} {readings : List Reading} (follow : Follow [] ending readings) :
    ∀ reading ∈ readings, reading.isEffective → reading.answer = ending.answer := by
  generalize spent : ([] : Bytes) = bytes at follow
  induction follow with
  | start => intro reading mem; exact absurd mem List.not_mem_nil
  | @piece piece bytes ending room later fits some rest ih =>
      obtain ⟨none, spent⟩ := List.append_eq_nil_iff.mp spent.symm
      intro reading mem effective
      rcases List.mem_cons.mp mem with rfl | mem
      · simp only [isEffective, Bool.and_eq_true, decide_eq_true_eq] at effective
        exact absurd none (some effective.1)
      · exact ih spent.symm reading mem effective
  | ended wide rest ih =>
      intro reading mem effective
      rcases List.mem_cons.mp mem with rfl | mem
      · rfl
      · exact ih rfl reading mem effective
  | interrupted interruption rest ih =>
      intro reading mem effective
      rcases List.mem_cons.mp mem with rfl | mem
      · simp [isEffective] at effective
      · exact ih spent reading mem effective

/-- Readings deliver these bytes in order, and then each effective one tells how they end. -/
structure Tell (bytes : Bytes) (ending : Wire.End) (readings : List Reading) : Prop where
  follow : Follow bytes ending readings
  beginning : ∀ early late, readings = early ++ late → delivered early <+: bytes
  settled : ∀ early late, readings = early ++ late → bytes.length ≤ early.countP isEffective →
    delivered early = bytes ∧ ∀ reading ∈ late, reading.isEffective → reading.answer = ending.answer

theorem Follow.tell {bytes : Bytes} {ending : Wire.End} {readings : List Reading}
    (follow : Follow bytes ending readings) : Tell bytes ending readings where
  follow := follow
  beginning := by
    rintro early late rfl
    obtain ⟨rest, whole, before, after⟩ := follow.split
    exact before.beginning
  settled := by
    rintro early late rfl enough
    obtain ⟨rest, whole, before, after⟩ := follow.split
    have all := before.complete enough
    rw [all, List.self_eq_append_right] at whole
    exact ⟨all, (whole ▸ after).settled⟩

end Reading

namespace Reader

def reads {ρ : Type} [ByteSource ρ] (reader : Reader (Heard ρ)) : List Nat → List Reading × Reader (Heard ρ)
  | [] => ([], reader)
  | room :: rooms =>
    let step := reader.poll room
    let interruptions := step.2.source.interruptions.drop reader.source.interruptions.length
    let later := step.2.reads rooms
    (⟨room, step.1, interruptions⟩ :: later.1, later.2)

/-- The bytes that are still to be delivered, and how they end, when the source `yields` what it does. -/
inductive Expects {ρ : Type} (yields : ρ → Bytes → Prop) (reader : Reader (Heard ρ)) (bytes : Bytes)
    (ending : Wire.End) : Prop
  | salt {left : Bytes} {payloads : List Bytes} (has : yields reader.source.source left)
      (state : reader.state = .salt) (nothing : reader.plaintext = []) (nonce : reader.nonce = .zero)
      (decoded : Wire.decode reader.key (reader.buffer ++ left) = (payloads, ending))
      (still : payloads.flatten = bytes)
  | length {left : Bytes} {session : Aead} {count : Nat} {payloads : List Bytes}
      (has : yields reader.source.source left) (state : reader.state = .length)
      (begun : reader.session = some session) (nonce : reader.nonce = .ofNat count)
      (decoded : Wire.decodeChunks session count (reader.buffer ++ left) = (payloads, ending))
      (still : reader.plaintext ++ payloads.flatten = bytes)
  | payload {left : Bytes} {session : Aead} {count size : Nat} {payloads : List Bytes}
      (has : yields reader.source.source left) (state : reader.state = .payload size)
      (nothing : reader.plaintext = []) (begun : reader.session = some session) (nonce : reader.nonce = .ofNat count)
      (decoded : Wire.decodeBody session count size (reader.buffer ++ left) = (payloads, ending))
      (still : payloads.flatten = bytes)
  | ended (state : reader.state = .ended) (nothing : reader.plaintext = []) (spent : bytes = [])
      (whole : ending = .whole)
  | refused (state : reader.state = .refused) (nothing : reader.plaintext = []) (spent : bytes = [])
      (refused : ending = .refused)

def HasRefused {ρ : Type} (reader : Reader ρ) : Prop := reader.state = .refused ∧ reader.plaintext = []

theorem poll_refused {ρ : Type} [ByteSource ρ] {reader : Reader ρ} {room : Nat} (refused : reader.HasRefused)
    (wide : 0 < room) : reader.poll room = (.ready (.error refusal), reader) := by
  have round : reader.round = .answer (.ready (.error refusal)) reader := by simp only [Reader.round, refused.1]
  rw [poll, refused.2, if_neg (by simp), if_neg (by omega)]
  split
  · rename_i same
    rw [round] at same
    cases same
    rfl
  · rename_i same
    rw [round] at same
    cases same

theorem poll_refused_same {ρ : Type} [ByteSource ρ] {reader : Reader ρ} {room : Nat} (refused : reader.HasRefused) :
    (reader.poll room).2 = reader := by
  by_cases wide : 0 < room
  · rw [poll_refused refused wide]
  · rw [poll, refused.2, if_neg (by simp), if_pos (by omega)]

end Reader
end SealedTunnel
