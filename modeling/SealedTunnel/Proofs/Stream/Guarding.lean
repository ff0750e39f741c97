import SealedTunnel.Proofs.Stream.Raising

/-!
The reader with its splits and its loops watched. A split or an index that is out of range, or a loop that has not ended
after the rounds that it was given, gives no result at all; and the messages that are opened are counted.
-/
namespace SealedTunnel

/-- Work that counts the messages it opens, and may not come to a result. -/
structure Guarded (α : Type) where
  /-- The result and how many messages have been opened after it, from how many were before. -/
  run : (opened : Nat) → Option (α × Nat)

namespace Guarded

variable {α β : Type}

instance : Monad Guarded where
  pure value := ⟨fun opened => some (value, opened)⟩
  bind work next := ⟨fun opened => (work.run opened).bind fun (value, later) => (next value).run later⟩

def broken : Guarded α := ⟨fun _ => none⟩

def countOpened : Guarded Unit := ⟨fun opened => some ((), opened + 1)⟩

def split (bytes : Bytes) (position : Nat) : Guarded (Bytes × Bytes) :=
  if position ≤ bytes.length then pure (bytes.take position, bytes.drop position) else broken

variable {opened later : Nat} {value : α}

theorem run_pure (value : α) (opened : Nat) : (pure value : Guarded α).run opened = some (value, opened) := rfl

theorem run_bind {work : Guarded α} (done : work.run opened = some (value, later)) (next : α → Guarded β) :
    (work >>= next).run opened = (next value).run later := by
  change (work.run opened).bind _ = _
  rw [done]
  rfl

theorem run_split {bytes : Bytes} {position : Nat} (inside : position ≤ bytes.length) (opened : Nat) :
    (split bytes position).run opened = some ((bytes.take position, bytes.drop position), opened) := by
  rw [split, if_pos inside, run_pure]

end Guarded

section Gathering

variable {ρ : Type} [ByteSource ρ]

/-- Gathers in so many reads. The buffer is made longer for each, and the source fills what is behind the bytes that are
there already. -/
def gatherGuarded : (reads : Nat) → (source : ρ) → (buffer : Bytes) → (needed : Nat) → Guarded (Gathered × ρ × Bytes)
  | 0, _, _, _ => .broken
  | reads + 1, source, buffer, needed =>
    if buffer.length ≥ needed then return (.enough, source, buffer)
    else do
      let size := max needed (buffer.length + readAhead)
      let (_, room) ← Guarded.split (buffer ++ Bytes.zeros (size - buffer.length)) buffer.length
      match ByteSource.read source room.length with
      | (.stalled reason, source) => return (.stalled reason, source, buffer)
      | (.ready (.error error), source) => return (.failed error, source, buffer)
      | (.ready (.ok []), source) => return (.ended, source, buffer)
      | (.ready (.ok (byte :: rest)), source) => gatherGuarded reads source (buffer ++ byte :: rest) needed

variable {reads needed : Nat} {source : ρ} {buffer : Bytes}

theorem gatherGuarded_succ (short : ¬ buffer.length ≥ needed) (opened : Nat) :
    (gatherGuarded (reads + 1) source buffer needed).run opened =
      (match ByteSource.read source (max needed (buffer.length + readAhead) - buffer.length) with
        | (.stalled reason, source) => pure (.stalled reason, source, buffer)
        | (.ready (.error error), source) => pure (.failed error, source, buffer)
        | (.ready (.ok []), source) => pure (.ended, source, buffer)
        | (.ready (.ok (byte :: rest)), source) => gatherGuarded reads source (buffer ++ byte :: rest) needed :
        Guarded (Gathered × ρ × Bytes)).run opened := by
  have inside : buffer.length ≤
      (buffer ++ Bytes.zeros (max needed (buffer.length + readAhead) - buffer.length)).length := by
    rw [List.length_append]
    exact Nat.le_add_right _ _
  rw [gatherGuarded, if_neg short, Guarded.run_bind (Guarded.run_split inside opened)]
  dsimp only
  rw [List.drop_left, Bytes.length_zeros]

theorem gatherGuarded_run (enough : ByteSource.supply source < reads) (opened : Nat) :
    (gatherGuarded reads source buffer needed).run opened = some (gather source buffer needed, opened) := by
  fun_induction gather source buffer needed generalizing reads with
  | case1 source buffer full =>
      obtain ⟨fewer, rfl⟩ := Nat.exists_eq_add_one_of_ne_zero (Nat.ne_zero_of_lt enough)
      rw [gatherGuarded, if_pos full, Guarded.run_pure]
  | case2 source buffer short _ _ read | case3 source buffer short _ _ read | case4 source buffer short _ read =>
      obtain ⟨fewer, rfl⟩ := Nat.exists_eq_add_one_of_ne_zero (Nat.ne_zero_of_lt enough)
      rw [gatherGuarded_succ short, read, Guarded.run_pure]
  | case5 source buffer short byte rest after read ih =>
      obtain ⟨fewer, rfl⟩ := Nat.exists_eq_add_one_of_ne_zero (Nat.ne_zero_of_lt enough)
      have less := ByteSource.supply_read _ _ (byte :: rest) (congrArg Prod.fst read)
      rw [read, List.length_cons] at less
      rw [gatherGuarded_succ short, read]
      exact ih (by dsimp only at less; omega)

end Gathering

namespace Reader

variable {ρ : Type}

section Opening

def openFrontGuarded (reader : Reader ρ) (length : Nat) : Guarded (Except IoError Bytes × Reader ρ) := do
  let (message, buffer) ← Guarded.split reader.buffer (length + tagSize)
  match reader.session with
  | none => return (.error (.ofFault (.crypto .notInitialized)), { reader with buffer })
  | some session =>
    let (hidden, tag) ← Guarded.split message length
    match session.openParts reader.nonce hidden tag with
    | .error fault => return (.error (.fault .invalidData fault), { reader with buffer, state := .refused })
    | .ok plaintext =>
      Guarded.countOpened
      return (.ok plaintext, { reader with buffer, nonce := reader.nonce.next })

def payloadLengthGuarded : Bytes → Guarded Nat
  | high :: low :: _ => return Wire.payloadLength [high, low]
  | _ => .broken

def beginSessionGuarded (reader : Reader ρ) : Guarded (Round ρ) := do
  let (salt, buffer) ← Guarded.split reader.buffer reader.key.saltSize
  match reader.key.session salt with
  | .error fault => return .answer (.ready (.error (.ofFault fault))) { reader with buffer }
  | .ok session => return .again { reader with buffer, session := some session, state := .length }

def openLengthGuarded (reader : Reader ρ) : Guarded (Round ρ) := do
  match ← reader.openFrontGuarded Wire.lengthSize with
  | (.error error, reader) => return .answer (.ready (.error error)) reader
  | (.ok length, reader) =>
    let size ← payloadLengthGuarded length
    return .again { reader with state := .payload size }

def openPayloadGuarded (reader : Reader ρ) (size : Nat) : Guarded (Round ρ) := do
  match ← reader.openFrontGuarded size with
  | (.error error, reader) => return .answer (.ready (.error error)) reader
  | (.ok plaintext, reader) => return .again { reader with plaintext, state := .length }

theorem openFrontGuarded_cases {reader : Reader ρ} {session : Aead} (begun : reader.session = some session) {length : Nat}
    (complete : length + tagSize ≤ reader.buffer.length) (opened : Nat) :
    (reader.openFront length =
        (.error refusal, { reader with buffer := reader.buffer.drop (length + tagSize), state := .refused }) ∧
      (reader.openFrontGuarded length).run opened = some (reader.openFront length, opened)) ∨
    ∃ plaintext, plaintext.length = length ∧
      reader.openFront length =
        (.ok plaintext, { reader with buffer := reader.buffer.drop (length + tagSize), nonce := reader.nonce.next }) ∧
      (reader.openFrontGuarded length).run opened = some (reader.openFront length, opened + 1) := by
  have size : (reader.buffer.take (length + tagSize)).length = length + tagSize := List.length_take_of_le complete
  have inside : length ≤ (reader.buffer.take (length + tagSize)).length := by
    rw [size]
    exact Nat.le_add_right _ _
  rw [openFrontGuarded, Guarded.run_bind (Guarded.run_split complete opened)]
  unfold openFront
  simp only [begun, Guarded.run_bind (Guarded.run_split inside opened)]
  cases parts : session.openParts reader.nonce ((reader.buffer.take (length + tagSize)).take length)
      ((reader.buffer.take (length + tagSize)).drop length) with
  | error fault =>
      cases Aead.openParts_error parts
      exact Or.inl ⟨rfl, rfl⟩
  | ok plaintext =>
      refine Or.inr ⟨plaintext, ?_, rfl, rfl⟩
      rw [Aead.length_openParts parts, List.length_take_of_le inside]

end Opening

section Reading

variable [ByteSource ρ]

def withBytesGuarded (reader : Reader ρ) (needed : Nat) (next atEnd : Reader ρ → Guarded (Round ρ)) :
    Guarded (Round ρ) := do
  match ← gatherGuarded (ByteSource.supply reader.source + 1) reader.source reader.buffer needed with
  | (.stalled reason, source, buffer) => return .answer (.stalled reason) { reader with source, buffer }
  | (.failed error, source, buffer) => return .answer (.ready (.error error)) { reader with source, buffer }
  | (.ended, source, buffer) => atEnd { reader with source, buffer }
  | (.enough, source, buffer) => next { reader with source, buffer }

def roundGuarded (reader : Reader ρ) : Guarded (Round ρ) :=
  match reader.state with
  | .ended => return .answer (.ready (.ok [])) reader
  | .refused => return .answer (.ready (.error refusal)) reader
  | .salt => reader.withBytesGuarded reader.key.saltSize beginSessionGuarded fun reader => return reader.endOfSource
  | .length =>
    reader.withBytesGuarded (Wire.lengthSize + tagSize) openLengthGuarded fun reader => return reader.endOfSource
  | .payload size =>
    reader.withBytesGuarded (size + tagSize) (fun reader => reader.openPayloadGuarded size)
      fun reader => return .answer (.ready (.error midChunk)) reader

def turnGuarded (reader : Reader ρ) (room : Nat) : Guarded (Round ρ) :=
  if !reader.plaintext.isEmpty then do
    let (piece, plaintext) ← Guarded.split reader.plaintext (min reader.plaintext.length room)
    let _ ← Guarded.split (Bytes.zeros room) piece.length
    return .answer (.ready (.ok piece)) { reader with plaintext }
  else if room = 0 then return .answer (.ready (.ok [])) reader
  else reader.roundGuarded

def pollGuarded : (turns : Nat) → (reader : Reader ρ) → (room : Nat) → Guarded (Poll (Except IoError Bytes) × Reader ρ)
  | 0, _, _ => .broken
  | turns + 1, reader, room => do
    match ← reader.turnGuarded room with
    | .answer result next => return (result, next)
    | .again next => pollGuarded turns next room

/-- A read that goes through its loop once, and once more for every tag that there is room for in what it can get. -/
def readGuarded (reader : Reader ρ) (room : Nat) : Guarded (Poll (Except IoError Bytes) × Reader ρ) :=
  reader.pollGuarded (reader.backlog / tagSize + 1) room

inductive Use (ρ : Type)
  | read (room : Nat)
  | source (source : ρ)

def after : (uses : List (Use ρ)) → (reader : Reader ρ) → Reader ρ
  | [], reader => reader
  | .read room :: uses, reader => after uses (reader.poll room).2
  | .source source :: uses, reader => after uses { reader with source }

def afterGuarded : (uses : List (Use ρ)) → (reader : Reader ρ) → Guarded (Reader ρ)
  | [], reader => return reader
  | .read room :: uses, reader => do
    let (_, next) ← reader.readGuarded room
    afterGuarded uses next
  | .source source :: uses, reader => afterGuarded uses { reader with source }

end Reading

end Reader

end SealedTunnel
