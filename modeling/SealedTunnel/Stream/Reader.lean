import SealedTunnel.Poll
import SealedTunnel.Stream.Wire

/-!
The receiving half of a stream. It gathers hidden bytes until the next sealed message is complete,
opens it and delivers payloads; each read delivers from one chunk at most.
-/
namespace SealedTunnel

inductive ReadState
  | salt
  | length
  | payload (size : Nat)
  | ended
  | refused
  deriving DecidableEq, Repr

structure Reader (ρ : Type) where
  source : ρ
  key : MasterKey
  session : Option Aead
  nonce : Nonce
  state : ReadState
  /-- Received and not opened yet. -/
  buffer : Bytes
  /-- Opened and not delivered yet. -/
  plaintext : Bytes

inductive Gathered
  | enough
  | ended
  | failed (error : IoError)
  | stalled (reason : Stall)
  deriving DecidableEq, Repr

/-- How much is read at a time beyond what is there. -/
def readAhead : Nat := 16 * 1024

def gather {ρ : Type} [ByteSource ρ] (source : ρ) (buffer : Bytes) (needed : Nat) : Gathered × ρ × Bytes :=
  if buffer.length ≥ needed then (.enough, source, buffer)
  else
    match _read : ByteSource.read source (max needed (buffer.length + readAhead) - buffer.length) with
    | (.stalled reason, source) => (.stalled reason, source, buffer)
    | (.ready (.error error), source) => (.failed error, source, buffer)
    | (.ready (.ok []), source) => (.ended, source, buffer)
    | (.ready (.ok (byte :: rest)), source) => gather source (buffer ++ byte :: rest) needed
termination_by ByteSource.supply source
decreasing_by
  have less := ByteSource.supply_read _ _ (byte :: rest) (congrArg Prod.fst _read)
  rw [_read] at less
  simp only [List.length_cons] at less
  omega

namespace Reader

variable {ρ : Type}

def fresh (key : MasterKey) (source : ρ) : Reader ρ := ⟨source, key, none, .zero, .salt, [], []⟩

/-- One round: an answer to the read, or a state with more done. -/
inductive Round (ρ : Type)
  | answer (result : Poll (Except IoError Bytes)) (reader : Reader ρ)
  | again (reader : Reader ρ)

def midChunk : IoError := .note .unexpectedEof "stream ended mid-chunk"

def refusal : IoError := .fault .invalidData .decryption

def openFront (reader : Reader ρ) (length : Nat) : Except IoError Bytes × Reader ρ :=
  let size := length + tagSize
  let message := reader.buffer.take size
  let rest := { reader with buffer := reader.buffer.drop size }
  match reader.session with
  | none => (.error (.ofFault (.crypto .notInitialized)), rest)
  | some session =>
    match session.openParts reader.nonce (message.take length) (message.drop length) with
    | .error fault => (.error (.fault .invalidData fault), { rest with state := .refused })
    | .ok plaintext => (.ok plaintext, { rest with nonce := reader.nonce.next })

/-- The source has ended where a chunk or the salt would begin or is not complete. -/
def endOfSource (reader : Reader ρ) : Round ρ :=
  if reader.buffer.isEmpty then .answer (.ready (.ok [])) { reader with state := .ended }
  else .answer (.ready (.error midChunk)) reader

def beginSession (reader : Reader ρ) : Round ρ :=
  let salt := reader.buffer.take reader.key.saltSize
  let rest := { reader with buffer := reader.buffer.drop reader.key.saltSize }
  match reader.key.session salt with
  | .error fault => .answer (.ready (.error (.ofFault fault))) rest
  | .ok session => .again { rest with session := some session, state := .length }

def openLength (reader : Reader ρ) : Round ρ :=
  match reader.openFront Wire.lengthSize with
  | (.error error, reader) => .answer (.ready (.error error)) reader
  | (.ok length, reader) => .again { reader with state := .payload (Wire.payloadLength length) }

def openPayload (reader : Reader ρ) (size : Nat) : Round ρ :=
  match reader.openFront size with
  | (.error error, reader) => .answer (.ready (.error error)) reader
  | (.ok plaintext, reader) => .again { reader with plaintext, state := .length }

variable [ByteSource ρ]

/-- Gathers `needed` bytes and goes on with `next`, or with `atEnd` when the source ends before. -/
def withBytes (reader : Reader ρ) (needed : Nat) (next atEnd : Reader ρ → Round ρ) : Round ρ :=
  match gather reader.source reader.buffer needed with
  | (.stalled reason, source, buffer) => .answer (.stalled reason) { reader with source, buffer }
  | (.failed error, source, buffer) => .answer (.ready (.error error)) { reader with source, buffer }
  | (.ended, source, buffer) => atEnd { reader with source, buffer }
  | (.enough, source, buffer) => next { reader with source, buffer }

def round (reader : Reader ρ) : Round ρ :=
  match reader.state with
  | .ended => .answer (.ready (.ok [])) reader
  | .refused => .answer (.ready (.error refusal)) reader
  | .salt => reader.withBytes reader.key.saltSize beginSession endOfSource
  | .length => reader.withBytes (Wire.lengthSize + tagSize) openLength endOfSource
  | .payload size =>
    reader.withBytes (size + tagSize) (fun reader => reader.openPayload size)
      fun reader => .answer (.ready (.error midChunk)) reader

def backlog (reader : Reader ρ) : Nat := ByteSource.supply reader.source + reader.buffer.length

end Reader

theorem gather_enough {ρ : Type} [ByteSource ρ] {source rest : ρ} {buffer gathered : Bytes} {needed : Nat}
    (enough : gather source buffer needed = (.enough, rest, gathered)) :
    needed ≤ gathered.length ∧
      ByteSource.supply rest + gathered.length ≤ ByteSource.supply source + buffer.length := by
  fun_induction gather source buffer needed with
  | case1 source buffer full =>
    simp only [Prod.mk.injEq, true_and] at enough
    obtain ⟨rfl, rfl⟩ := enough
    exact ⟨full, Nat.le_refl _⟩
  | case2 => simp at enough
  | case3 => simp at enough
  | case4 => simp at enough
  | case5 source buffer _ byte bytes after read ih =>
    have less := ByteSource.supply_read _ _ (byte :: bytes) (congrArg Prod.fst read)
    rw [read] at less
    have reached := ih enough
    simp only [List.length_append] at reached less
    omega

theorem gather_ended {ρ : Type} [ByteSource ρ] {source rest : ρ} {buffer gathered : Bytes} {needed : Nat}
    (ended : gather source buffer needed = (.ended, rest, gathered)) :
    ByteSource.supply rest + gathered.length ≤ ByteSource.supply source + buffer.length := by
  fun_induction gather source buffer needed with
  | case1 => simp at ended
  | case2 => simp at ended
  | case3 => simp at ended
  | case4 source buffer _ after read =>
    have less := ByteSource.supply_read _ _ [] (congrArg Prod.fst read)
    rw [read] at less
    simp only [Prod.mk.injEq, true_and] at ended
    obtain ⟨rfl, rfl⟩ := ended
    simpa using less
  | case5 source buffer _ byte bytes after read ih =>
    have less := ByteSource.supply_read _ _ (byte :: bytes) (congrArg Prod.fst read)
    rw [read] at less
    have reached := ih ended
    simp only [List.length_append] at reached less
    omega

namespace Reader

variable {ρ : Type} [ByteSource ρ]

theorem withBytes_again {reader next : Reader ρ} {needed : Nat} {go atEnd : Reader ρ → Round ρ}
    (stops : ∀ other, atEnd other ≠ .again next)
    (advances : ∀ other : Reader ρ, needed ≤ other.buffer.length → go other = .again next →
      next.backlog + tagSize ≤ other.backlog)
    (again : reader.withBytes needed go atEnd = .again next) : next.backlog + tagSize ≤ reader.backlog := by
  unfold withBytes at again
  split at again
  · simp at again
  · simp at again
  · exact absurd again (stops _)
  · rename_i source buffer gathered
    have reached := gather_enough gathered
    have advanced := advances _ reached.1 again
    simp only [backlog] at advanced ⊢
    omega

omit [ByteSource ρ] in
theorem endOfSource_ne_again (reader next : Reader ρ) : reader.endOfSource ≠ .again next := by
  unfold endOfSource
  split <;> simp

theorem tagSize_le_saltSize (key : MasterKey) : tagSize ≤ key.saltSize := by
  unfold MasterKey.saltSize CipherSpec.saltSize AeadKind.keySize
  split <;> decide

theorem saltSize_pos (key : MasterKey) : 0 < key.saltSize := Nat.lt_of_lt_of_le (by decide) (tagSize_le_saltSize key)

omit [ByteSource ρ] in
/-- Opening takes the message off the buffer, whatever comes of it, and counts it if it is opened. -/
theorem openFront_cases (reader : Reader ρ) (length : Nat) :
    (∃ error state, reader.openFront length =
      (.error error, { reader with buffer := reader.buffer.drop (length + tagSize), state })) ∨
    ∃ plaintext, plaintext.length ≤ length ∧ reader.openFront length =
      (.ok plaintext, { reader with buffer := reader.buffer.drop (length + tagSize), nonce := reader.nonce.next }) := by
  unfold openFront
  dsimp only
  split
  · exact Or.inl ⟨_, _, rfl⟩
  · split
    · exact Or.inl ⟨_, _, rfl⟩
    · rename_i plaintext parts
      refine Or.inr ⟨plaintext, ?_, rfl⟩
      rw [Aead.length_openParts parts]
      exact List.length_take_le _ _

theorem openFront_ok {reader next : Reader ρ} {length : Nat} {plaintext : Bytes}
    (opened : reader.openFront length = (.ok plaintext, next)) (enough : length + tagSize ≤ reader.buffer.length) :
    next.backlog + (length + tagSize) ≤ reader.backlog := by
  obtain ⟨_, _, same⟩ | ⟨_, -, same⟩ := reader.openFront_cases length
  · cases same.symm.trans opened
  · cases same.symm.trans opened
    simp only [backlog, List.length_drop]
    omega

omit [ByteSource ρ] in
theorem length_openFront {reader next : Reader ρ} {length : Nat} {plaintext : Bytes}
    (opened : reader.openFront length = (.ok plaintext, next)) :
    plaintext.length ≤ length ∧ next.plaintext = reader.plaintext := by
  obtain ⟨_, _, same⟩ | ⟨_, short, same⟩ := reader.openFront_cases length
  · cases same.symm.trans opened
  · cases same.symm.trans opened
    exact ⟨short, rfl⟩

/-- Each round that goes on has taken some of the bytes, a tag at least. -/
theorem round_spends {reader next : Reader ρ} (again : reader.round = .again next) :
    next.backlog + tagSize ≤ reader.backlog := by
  unfold round at again
  split at again
  · simp at again
  · simp at again
  · refine withBytes_again (fun other => other.endOfSource_ne_again next) ?_ again
    intro other enough began
    unfold beginSession at began
    dsimp only at began
    split at began
    · simp at began
    · simp only [Round.again.injEq] at began
      subst began
      have := tagSize_le_saltSize other.key
      have := tagSize_le_saltSize reader.key
      simp only [backlog, List.length_drop]
      omega
  · refine withBytes_again (fun other => other.endOfSource_ne_again next) ?_ again
    intro other enough opened
    unfold openLength at opened
    split at opened
    · simp at opened
    · rename_i after front
      simp only [Round.again.injEq] at opened
      subst opened
      have less := openFront_ok front enough
      exact Nat.le_trans (Nat.add_le_add_left (Nat.le_add_left tagSize Wire.lengthSize) _) less
  · refine withBytes_again (by simp) ?_ again
    intro other enough opened
    unfold openPayload at opened
    split at opened
    · simp at opened
    · rename_i after front
      simp only [Round.again.injEq] at opened
      subst opened
      have less := openFront_ok front enough
      exact Nat.le_trans (Nat.add_le_add_left (Nat.le_add_left tagSize _) _) less

theorem round_again {reader next : Reader ρ} (again : reader.round = .again next) : next.backlog < reader.backlog :=
  Nat.lt_of_lt_of_le (Nat.lt_add_of_pos_right (by decide)) (round_spends again)

def poll (reader : Reader ρ) (room : Nat) : Poll (Except IoError Bytes) × Reader ρ :=
  if !reader.plaintext.isEmpty then
    (.ready (.ok (reader.plaintext.take room)), { reader with plaintext := reader.plaintext.drop room })
  else if room = 0 then (.ready (.ok []), reader)
  else
    match _round : reader.round with
    | .answer result reader => (result, reader)
    | .again next => poll next room
termination_by reader.backlog
decreasing_by exact round_again _round

/-- Bytes that are still to be opened or delivered. -/
def supply (reader : Reader ρ) : Nat := reader.backlog + reader.plaintext.length

/-- Nothing is delivered that was not there: what a round leaves and delivers stays within `limit`. -/
def Round.Within (limit : Nat) : Round ρ → Prop
  | .answer (.ready (.ok bytes)) next => next.supply + bytes.length ≤ limit
  | .answer _ _ => True
  | .again next => next.supply ≤ limit

theorem withBytes_within {reader : Reader ρ} {needed : Nat} {go atEnd : Reader ρ → Round ρ}
    (goes : ∀ other : Reader ρ, needed ≤ other.buffer.length → other.plaintext = reader.plaintext →
      (go other).Within other.supply)
    (ends : ∀ other : Reader ρ, (atEnd other).Within other.supply) :
    (reader.withBytes needed go atEnd).Within reader.supply := by
  have weaken : ∀ (round : Round ρ) {low high : Nat}, low ≤ high → round.Within low → round.Within high := by
    intro round low high less within
    unfold Round.Within at within ⊢
    split at within <;> first | trivial | omega
  unfold withBytes
  split
  · trivial
  · trivial
  · rename_i source buffer gathered
    have less := gather_ended gathered
    refine weaken _ ?_ (ends _)
    simp only [supply, backlog]
    omega
  · rename_i source buffer gathered
    have reached := gather_enough gathered
    refine weaken _ ?_ (goes _ reached.1 rfl)
    simp only [supply, backlog]
    omega

theorem endOfSource_within (reader : Reader ρ) : reader.endOfSource.Within reader.supply := by
  unfold endOfSource
  split
  · exact Nat.le_refl _
  · trivial

theorem round_within (reader : Reader ρ) : reader.round.Within reader.supply := by
  unfold round
  split
  · exact Nat.le_refl _
  · trivial
  · refine withBytes_within ?_ endOfSource_within
    intro other _ _
    unfold beginSession
    dsimp only
    split
    · trivial
    · simp only [Round.Within, supply, backlog, List.length_drop]
      omega
  · refine withBytes_within ?_ endOfSource_within
    intro other enough _
    unfold openLength
    split
    · trivial
    · rename_i after front
      have less := openFront_ok front enough
      have opened := length_openFront front
      change after.backlog + after.plaintext.length ≤ other.backlog + other.plaintext.length
      rw [opened.2]
      omega
  · refine withBytes_within ?_ (fun _ => trivial)
    intro other enough same
    unfold openPayload
    split
    · trivial
    · rename_i after front
      have less := openFront_ok front enough
      have opened := length_openFront front
      rename_i plaintext
      change after.backlog + plaintext.length ≤ other.backlog + other.plaintext.length
      omega

theorem supply_poll {reader : Reader ρ} {room : Nat} {bytes : Bytes}
    (done : (reader.poll room).1 = .ready (.ok bytes)) :
    (reader.poll room).2.supply + bytes.length ≤ reader.supply := by
  fun_induction poll reader room with
  | case1 reader full =>
    simp only [Poll.ready.injEq, Except.ok.injEq] at done
    subst done
    simp only [supply, backlog, List.length_drop, List.length_take]
    omega
  | case2 reader delivered =>
    simp only [Poll.ready.injEq, Except.ok.injEq] at done
    subst done
    exact Nat.le_refl _
  | case3 reader delivered _ result next round =>
    have within := round_within reader
    rw [round] at within
    simp only at done
    subst done
    exact within
  | case4 reader delivered _ next round ih =>
    have within := round_within reader
    rw [round] at within
    exact Nat.le_trans (ih done) within

/-- What a round answers at once is the end, or no bytes. -/
def Round.IsBare : Round ρ → Prop
  | .answer (.ready (.ok bytes)) _ => bytes = []
  | _ => True

theorem withBytes_bare {reader : Reader ρ} {needed : Nat} {go atEnd : Reader ρ → Round ρ}
    (goes : ∀ other : Reader ρ, (go other).IsBare) (ends : ∀ other : Reader ρ, (atEnd other).IsBare) :
    (reader.withBytes needed go atEnd).IsBare := by
  unfold withBytes
  split
  · trivial
  · trivial
  · exact ends _
  · exact goes _

theorem round_bare (reader : Reader ρ) : reader.round.IsBare := by
  have ends : ∀ other : Reader ρ, other.endOfSource.IsBare := by
    intro other
    unfold endOfSource
    split <;> trivial
  unfold round
  split
  · rfl
  · trivial
  · refine withBytes_bare (fun other => ?_) ends
    unfold beginSession
    dsimp only
    split <;> trivial
  · refine withBytes_bare (fun other => ?_) ends
    unfold openLength
    split <;> trivial
  · refine withBytes_bare (fun other => ?_) fun _ => trivial
    unfold openPayload
    split <;> trivial

theorem length_poll_le {reader : Reader ρ} {room : Nat} {bytes : Bytes}
    (done : (reader.poll room).1 = .ready (.ok bytes)) : bytes.length ≤ room := by
  fun_induction poll reader room with
  | case1 reader full =>
    simp only [Poll.ready.injEq, Except.ok.injEq] at done
    subst done
    exact List.length_take_le _ _
  | case2 reader delivered =>
    simp only [Poll.ready.injEq, Except.ok.injEq] at done
    subst done
    exact Nat.zero_le _
  | case3 reader delivered _ result next round =>
    have bare := round_bare reader
    rw [round] at bare
    simp only at done
    subst done
    rw [show bytes = [] from bare]
    exact Nat.zero_le _
  | case4 reader delivered _ next round ih => exact ih done

inductive Ending
  | ended
  | stalled
  | failed (error : IoError)
  deriving DecidableEq, Repr

/-- Reads up to `reads` times, until nothing more comes: the pieces and the end. -/
def readTimes (room : Nat) : (reads : Nat) → Reader ρ → List Bytes × Ending × Reader ρ
  | 0, reader => ([], .stalled, reader)
  | reads + 1, reader =>
    match reader.poll room with
    | (.stalled _, reader) => ([], .stalled, reader)
    | (.ready (.error error), reader) => ([], .failed error, reader)
    | (.ready (.ok []), reader) => ([], .ended, reader)
    | (.ready (.ok piece), reader) =>
      let (pieces, ending, reader) := readTimes room reads reader
      (piece :: pieces, ending, reader)

/-- Reads until nothing more comes. A read that yields bytes uses up as many of the backlog. -/
def readAll (reader : Reader ρ) (room : Nat) : List Bytes × Ending × Reader ρ :=
  reader.readTimes room (reader.supply + 1)

end Reader

instance {ρ : Type} [ByteSource ρ] : ByteSource (Reader ρ) where
  read := Reader.poll
  supply := Reader.supply
  supply_read _ _ _ done := Reader.supply_poll done

end SealedTunnel
