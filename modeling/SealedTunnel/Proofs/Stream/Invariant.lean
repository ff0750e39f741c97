import SealedTunnel.Proofs.Stream.Guarding
import SealedTunnel.Scripted.Source

namespace SealedTunnel

def ByteSource.Fits (ρ : Type) [ByteSource ρ] : Prop :=
  ∀ (source : ρ) (room : Nat) (bytes : Bytes), (read source room).1 = .ready (.ok bytes) → bytes.length ≤ room

section Gathering

variable {ρ : Type} [ByteSource ρ]

/-- The most that is held of what is not opened yet: a message but for one byte, and what is read ahead. -/
def longestBuffer : Nat := 0x3fff + tagSize - 1 + 16384

theorem length_gather (fits : ByteSource.Fits ρ) (source : ρ) {buffer : Bytes} {needed : Nat}
    (short : needed ≤ 0x3fff + tagSize) (bounded : buffer.length ≤ longestBuffer) :
    (gather source buffer needed).2.2.length ≤ longestBuffer := by
  fun_induction gather source buffer needed with
  | case1 | case2 | case3 | case4 => exact bounded
  | case5 source buffer less byte rest after read ih =>
      have room := fits source _ (byte :: rest) (congrArg Prod.fst read)
      apply ih
      rw [List.length_append]
      unfold longestBuffer readAhead at *
      omega

end Gathering

namespace Reader

variable {ρ : Type}

/-- What a reader has in its state when it has opened so many messages: two for each chunk, its length first. -/
def Stands (reader : Reader ρ) (opened : Nat) : Prop :=
  match reader.state with
  | .salt => reader.plaintext = [] ∧ opened = 0
  | .length => reader.session.isSome ∧ opened % 2 = 0
  | .payload size => reader.session.isSome ∧ opened % 2 = 1 ∧ reader.plaintext = [] ∧ size ≤ 0x3fff
  | .ended => reader.plaintext = []
  | .refused => reader.plaintext = []

structure Sound (reader : Reader ρ) (opened : Nat) : Prop where
  stands : reader.Stands opened
  nonce : reader.nonce = .ofNat opened
  buffer_le : reader.buffer.length ≤ longestBuffer

variable {reader : Reader ρ} {opened : Nat}

theorem sound_fresh (key : MasterKey) (source : ρ) : (fresh key source).Sound 0 :=
  ⟨⟨rfl, rfl⟩, Nonce.zero_eq_ofNat, Nat.zero_le _⟩

section Stands

variable (stands : reader.Stands opened)

include stands

theorem Stands.salt (state : reader.state = .salt) : reader.plaintext = [] ∧ opened = 0 := by
  rwa [Stands, state] at stands

theorem Stands.length (state : reader.state = .length) : reader.session.isSome ∧ opened % 2 = 0 := by
  rwa [Stands, state] at stands

theorem Stands.payload {size : Nat} (state : reader.state = .payload size) :
    reader.session.isSome ∧ opened % 2 = 1 ∧ reader.plaintext = [] ∧ size ≤ 0x3fff := by
  rwa [Stands, state] at stands

/-- Something waits to be delivered only where the next chunk would begin. -/
theorem Stands.pending (some : reader.plaintext ≠ []) : reader.state = .length := by
  unfold Stands at stands
  split at stands
  next => exact absurd stands.1 some
  next state => exact state
  next => exact absurd stands.2.2.1 some
  next => exact absurd stands some
  next => exact absurd stands some

end Stands

namespace Sound

variable (sound : reader.Sound opened)

include sound

theorem drop_le (size : Nat) : (reader.buffer.drop size).length ≤ longestBuffer := by
  have bounded := sound.buffer_le
  rw [List.length_drop]
  omega

theorem nonce_next : reader.nonce.next = .ofNat (opened + 1) := by
  rw [sound.nonce, Nonce.next_ofNat]

theorem deliver (pending : reader.plaintext ≠ []) (plaintext : Bytes) :
    ({ reader with plaintext } : Reader ρ).Sound opened := by
  have state := sound.stands.pending pending
  have stands := sound.stands.length state
  exact ⟨by rwa [Stands, state], sound.nonce, sound.buffer_le⟩

theorem refill (source : ρ) {buffer : Bytes} (bounded : buffer.length ≤ longestBuffer) :
    ({ reader with source, buffer } : Reader ρ).Sound opened :=
  ⟨sound.stands, sound.nonce, bounded⟩

end Sound

def Round.Sound (opened : Nat) : Round ρ → Prop
  | .answer _ next => next.Sound opened
  | .again next => next.Sound opened

def Guards (work : Guarded (Round ρ)) (opened : Nat) (round : Round ρ) : Prop :=
  ∃ later, work.run opened = some (round, later) ∧ round.Sound later

theorem guards_pure {round : Round ρ} (sound : round.Sound opened) : Guards (pure round) opened round :=
  ⟨opened, Guarded.run_pure round opened, sound⟩

theorem payloadLength_le (length : Bytes) : Wire.payloadLength length ≤ 0x3fff :=
  Nat.le_of_lt_succ (Nat.mod_lt _ (by decide))

theorem payloadLengthGuarded_run {length : Bytes} (two : length.length = Wire.lengthSize) (opened : Nat) :
    (payloadLengthGuarded length).run opened = some (Wire.payloadLength length, opened) := by
  match length, two with
  | [high, low], _ => rfl

theorem saltSize_le (key : MasterKey) : key.saltSize ≤ 0x3fff + tagSize :=
  Nat.le_trans key.spec.kind.keySize_le (by decide)

section Opening

variable (sound : reader.Sound opened)

include sound

theorem guards_endOfSource (nothing : reader.plaintext = []) :
    Guards (pure reader.endOfSource) opened reader.endOfSource := by
  apply guards_pure
  unfold endOfSource
  split
  · exact ⟨nothing, sound.nonce, sound.buffer_le⟩
  · exact sound

theorem guards_beginSession (state : reader.state = .salt) (complete : reader.key.saltSize ≤ reader.buffer.length) :
    Guards reader.beginSessionGuarded opened reader.beginSession := by
  obtain ⟨session, ofSalt⟩ := reader.key.session_ok (reader.buffer.take reader.key.saltSize)
  obtain ⟨-, rfl⟩ := sound.stands.salt state
  refine ⟨0, ?_, ?_⟩
  · rw [beginSessionGuarded, Guarded.run_bind (Guarded.run_split complete 0), beginSession]
    simp only [ofSalt, Guarded.run_pure]
  · simp only [beginSession, ofSalt]
    exact ⟨⟨rfl, rfl⟩, sound.nonce, sound.drop_le _⟩

theorem guards_openLength (state : reader.state = .length) (nothing : reader.plaintext = [])
    (complete : Wire.lengthSize + tagSize ≤ reader.buffer.length) :
    Guards reader.openLengthGuarded opened reader.openLength := by
  obtain ⟨begun, even⟩ := sound.stands.length state
  obtain ⟨session, ofSalt⟩ := Option.isSome_iff_exists.mp begun
  -- The length has been refused, and is not counted, or it has been opened, and its payload has an odd nonce.
  obtain ⟨front, run⟩ | ⟨length, two, front, run⟩ := openFrontGuarded_cases ofSalt complete opened
  · refine ⟨opened, ?_, ?_⟩
    · rw [openLengthGuarded, Guarded.run_bind run, openLength, front, Guarded.run_pure]
    · rw [openLength, front]
      exact ⟨nothing, sound.nonce, sound.drop_le _⟩
  · have odd : (opened + 1) % 2 = 1 := by omega
    refine ⟨opened + 1, ?_, ?_⟩
    · rw [openLengthGuarded, Guarded.run_bind run, openLength, front]
      exact Guarded.run_bind (payloadLengthGuarded_run two (opened + 1)) _
    · rw [openLength, front]
      exact ⟨⟨begun, odd, nothing, payloadLength_le length⟩, sound.nonce_next, sound.drop_le _⟩

theorem guards_openPayload {size : Nat} (state : reader.state = .payload size)
    (complete : size + tagSize ≤ reader.buffer.length) :
    Guards (reader.openPayloadGuarded size) opened (reader.openPayload size) := by
  obtain ⟨begun, odd, nothing, -⟩ := sound.stands.payload state
  obtain ⟨session, ofSalt⟩ := Option.isSome_iff_exists.mp begun
  obtain ⟨front, run⟩ | ⟨plaintext, -, front, run⟩ := openFrontGuarded_cases ofSalt complete opened
  · refine ⟨opened, ?_, ?_⟩
    · rw [openPayloadGuarded, Guarded.run_bind run, openPayload, front, Guarded.run_pure]
    · rw [openPayload, front]
      exact ⟨nothing, sound.nonce, sound.drop_le _⟩
  · have even : (opened + 1) % 2 = 0 := by omega
    refine ⟨opened + 1, ?_, ?_⟩
    · rw [openPayloadGuarded, Guarded.run_bind run, openPayload, front, Guarded.run_pure]
    · rw [openPayload, front]
      exact ⟨⟨begun, even⟩, sound.nonce_next, sound.drop_le _⟩

end Opening

theorem turnGuarded_delivers [ByteSource ρ] (pending : reader.plaintext ≠ []) (room opened : Nat) :
    (reader.turnGuarded room).run opened =
      some (.answer (.ready (.ok (reader.plaintext.take room))) { reader with plaintext := reader.plaintext.drop room },
        opened) := by
  have piece : min reader.plaintext.length room ≤ reader.plaintext.length := Nat.min_le_left _ _
  have fitted : (reader.plaintext.take room).length ≤ (Bytes.zeros room).length := by
    rw [Bytes.length_zeros]
    exact List.length_take_le _ _
  rw [turnGuarded, if_pos (by simp [pending]), Guarded.run_bind (Guarded.run_split piece opened)]
  rw [Nat.min_comm, ← List.take_eq_take_min, ← List.drop_eq_drop_min]
  exact Guarded.run_bind (Guarded.run_split fitted opened) _

section Reading

variable [ByteSource ρ] (fits : ByteSource.Fits ρ) (sound : reader.Sound opened)

include fits sound

theorem guards_withBytes {needed : Nat} (short : needed ≤ 0x3fff + tagSize) {go atEnd : Reader ρ → Round ρ}
    {goGuarded atEndGuarded : Reader ρ → Guarded (Round ρ)}
    (goes : ∀ source buffer, Sound { reader with source, buffer } opened → needed ≤ buffer.length →
      Guards (goGuarded { reader with source, buffer }) opened (go { reader with source, buffer }))
    (ends : ∀ source buffer, Sound { reader with source, buffer } opened →
      Guards (atEndGuarded { reader with source, buffer }) opened (atEnd { reader with source, buffer })) :
    Guards (reader.withBytesGuarded needed goGuarded atEndGuarded) opened (reader.withBytes needed go atEnd) := by
  have gathered : (gatherGuarded (ByteSource.supply reader.source + 1) reader.source reader.buffer needed).run opened =
      some (gather reader.source reader.buffer needed, opened) := gatherGuarded_run (Nat.lt_succ_self _) opened
  have bounded := length_gather fits reader.source short sound.buffer_le
  rw [withBytesGuarded, withBytes, Guards, Guarded.run_bind gathered]
  cases outcome : gather reader.source reader.buffer needed with
  | mk came rest =>
      obtain ⟨source, buffer⟩ := rest
      rw [outcome] at bounded
      have filled := sound.refill source bounded
      cases came with
      | stalled | failed => exact guards_pure filled
      | ended => exact ends source buffer filled
      | enough => exact goes source buffer filled (gather_enough outcome).1

theorem guards_round (nothing : reader.plaintext = []) : Guards reader.roundGuarded opened reader.round := by
  cases state : reader.state with
  | ended | refused =>
      rw [roundGuarded, round, state]
      exact guards_pure sound
  | salt =>
      rw [roundGuarded, round, state]
      apply guards_withBytes fits sound (saltSize_le reader.key)
      · intro source buffer filled complete
        exact guards_beginSession filled state complete
      · intro source buffer filled
        exact guards_endOfSource filled nothing
  | length =>
      rw [roundGuarded, round, state]
      apply guards_withBytes fits sound (by decide)
      · intro source buffer filled complete
        exact guards_openLength filled state nothing complete
      · intro source buffer filled
        exact guards_endOfSource filled nothing
  | payload size =>
      obtain ⟨-, -, -, bounded⟩ := sound.stands.payload state
      rw [roundGuarded, round, state]
      apply guards_withBytes fits sound (Nat.add_le_add_right bounded tagSize)
      · intro source buffer filled complete
        exact guards_openPayload filled state complete
      · intro source buffer filled
        exact guards_pure filled

/-- The reader that a turn leaves is sound, and the turn is one of the loop of a read: it gives the read's result, or
what the read goes on with, at the cost of a tag at least. -/
theorem turnGuarded_run (room : Nat) :
    ∃ round later, (reader.turnGuarded room).run opened = some (round, later) ∧ round.Sound later ∧
      match round with
      | .answer result next => reader.poll room = (result, next)
      | .again next => reader.poll room = next.poll room ∧ next.backlog + tagSize ≤ reader.backlog := by
  rw [poll]
  by_cases pending : reader.plaintext = []
  · have idle : ¬ (!reader.plaintext.isEmpty) = true := by simp [pending]
    rw [turnGuarded, if_neg idle, if_neg idle]
    by_cases full : room = 0
    · rw [if_pos full, if_pos full]
      exact ⟨_, opened, Guarded.run_pure _ _, sound, rfl⟩
    · rw [if_neg full, if_neg full]
      obtain ⟨later, run, left⟩ := guards_round fits sound pending
      refine ⟨reader.round, later, run, left, ?_⟩
      cases done : reader.round with
      | answer result next => rfl
      | again next => exact ⟨rfl, round_spends done⟩
  · have waiting : (!reader.plaintext.isEmpty) = true := by simp [pending]
    rw [if_pos waiting]
    exact ⟨_, opened, turnGuarded_delivers pending room opened, sound.deliver pending _, rfl⟩

/-- A read comes to its result within the turns that the bytes allow, and leaves a sound reader. -/
theorem guards_poll {turns : Nat} (enough : reader.backlog / tagSize < turns) (room : Nat) :
    ∃ later, (pollGuarded turns reader room).run opened = some (reader.poll room, later) ∧
      (reader.poll room).2.Sound later := by
  induction turns generalizing reader opened with
  | zero => exact absurd enough (Nat.not_lt_zero _)
  | succ turns ih =>
      obtain ⟨round, later, run, left, done⟩ := turnGuarded_run fits sound room
      rw [pollGuarded, Guarded.run_bind run]
      cases round with
      | answer result next =>
          rw [done]
          exact ⟨later, Guarded.run_pure _ _, left⟩
      | again next =>
          -- Each round takes a tag at least from what is still to be opened, that of an empty payload too.
          obtain ⟨same, spent⟩ := done
          have fewer : next.backlog / tagSize + 1 ≤ reader.backlog / tagSize := calc
            _ = (next.backlog + tagSize) / tagSize := (Nat.add_div_right _ (by decide)).symm
            _ ≤ reader.backlog / tagSize := Nat.div_le_div_right spent
          rw [same]
          apply ih left
          omega

theorem guards_read (room : Nat) :
    ∃ later, (reader.readGuarded room).run opened = some (reader.poll room, later) ∧
      (reader.poll room).2.Sound later :=
  guards_poll fits sound (Nat.lt_succ_self _) room

theorem guards_after (uses : List (Use ρ)) :
    ∃ later, (afterGuarded uses reader).run opened = some (after uses reader, later) ∧
      (after uses reader).Sound later := by
  induction uses generalizing reader opened with
  | nil => exact ⟨opened, Guarded.run_pure _ _, sound⟩
  | cons use uses ih =>
      cases use with
      | read room =>
          obtain ⟨later, run, left⟩ := guards_read fits sound room
          rw [afterGuarded, Guarded.run_bind run]
          exact ih left
      | source source => exact ih (sound.refill source sound.buffer_le)

end Reading

/-- What can be told of a reader from outside when so many messages have been opened. -/
structure Invariant (reader : Reader ρ) (opened : Nat) : Prop where
  session_length : reader.state = .length → reader.session.isSome
  session_payload : ∀ size, reader.state = .payload size → reader.session.isSome
  payload_le : ∀ size, reader.state = .payload size → size ≤ 0x3fff
  pending : reader.plaintext ≠ [] → reader.state = .length
  nonce : reader.nonce = .ofNat opened
  nonce_value : reader.nonce.value = opened % Nat.pow 2 96
  even : reader.state = .length → opened % 2 = 0
  odd : ∀ size, reader.state = .payload size → opened % 2 = 1
  buffer_le : reader.buffer.length ≤ 0x3fff + tagSize - 1 + 16384

theorem Sound.invariant (sound : reader.Sound opened) : reader.Invariant opened where
  session_length state := (sound.stands.length state).1
  session_payload _ state := (sound.stands.payload state).1
  payload_le _ state := (sound.stands.payload state).2.2.2
  pending some := sound.stands.pending some
  nonce := sound.nonce
  nonce_value := by rw [sound.nonce, Nonce.value_ofNat]
  even state := (sound.stands.length state).2
  odd _ state := (sound.stands.payload state).2.1
  buffer_le := sound.buffer_le

/-- However a reader is read from, and whatever its source does meanwhile, no split and no index is out of range and each
read ends: it goes through its loop once, and once more for each tag that the bytes have room for. The invariant holds
after each use, with the number of messages that have been opened by then. -/
theorem reads_in_range [ByteSource ρ] (fits : ByteSource.Fits ρ) (key : MasterKey) (source : ρ) (uses : List (Use ρ)) :
    ∃ opened, (afterGuarded uses (fresh key source)).run 0 = some (after uses (fresh key source), opened) ∧
      (after uses (fresh key source)).Invariant opened ∧
      ∀ room, ∃ later, ((after uses (fresh key source)).readGuarded room).run opened =
        some ((after uses (fresh key source)).poll room, later) := by
  obtain ⟨opened, run, sound⟩ := guards_after fits (sound_fresh key source) uses
  refine ⟨opened, run, sound.invariant, ?_⟩
  intro room
  obtain ⟨later, read, -⟩ := guards_read fits sound room
  exact ⟨later, read⟩

end Reader

theorem Scripted.Source.fits_readItems {source : Source} {room : Nat} {items : List SourceItem} {bytes : Bytes}
    (done : (readItems source room items).1 = .ready (.ok bytes)) : bytes.length ≤ room := by
  fun_induction readItems source room items with
  | case1 | case5 | case7 | case9 => simp at done
  | case2 | case6 =>
      cases done
      exact Nat.zero_le _
  | case3 source rest ih => exact ih done
  | case4 source byte bytes rest left =>
      cases done
      exact List.length_take_le _ _
  | case8 source millis rest due passed ih => exact ih done

theorem Scripted.Source.fits : ByteSource.Fits Source := fun _ _ _ done => fits_readItems done

theorem Reader.reads_in_range_script :
    let key : MasterKey := ⟨⟨"aes-128-gcm", "AEAD_AES_128_GCM", .aes128Gcm⟩, []⟩
    let wire : Bytes := match Wire.encode key (Bytes.zeros 16) [[], [1]] with
      | .ok wire => wire
      | .error _ => []
    let source := Scripted.Source.ofItems [.data (wire.take 5), .yield, .data (wire.drop 5)] true
    let later := Scripted.Source.ofItems [.fail (.bare .connectionReset), .data (Bytes.zeros 40)] false
    let uses := [Use.read 4, .read 0, .read 4, .read 4, .source later, .read 1, .read 1]
    ByteSource.Fits Scripted.Source ∧
      ∃ opened, (afterGuarded uses (fresh key source)).run 0 = some (after uses (fresh key source), opened) ∧
        (after uses (fresh key source)).Invariant opened := by
  intro key wire source later uses
  obtain ⟨opened, run, holds, -⟩ := reads_in_range Scripted.Source.fits key source uses
  exact ⟨Scripted.Source.fits, opened, run, holds⟩

end SealedTunnel
