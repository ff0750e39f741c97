import SealedTunnel.Proofs.Stream.Taking

/-!
The work of a writer with notes of what it does beside its results: the salts it asks for, the texts it seals and
the sealed bytes it gives up. Without the notes it is the same work.
-/
namespace SealedTunnel

structure Seal where
  session : Aead
  nonce : Nonce
  text : Bytes

inductive Note
  | drawn (result : Except Fault Bytes)
  | sealed (made : Seal)
  /-- Sealed bytes that nobody will send any more. -/
  | abandoned (rest : Bytes)

namespace Note

/-- Whether data is lost: a salt could not be had for it, or it is sealed and not sent. -/
def isLoss : Note → Bool
  | drawn (.error _) => true
  | abandoned _ => true
  | _ => false

def salt? : Note → Option Bytes
  | drawn (.ok salt) => some salt
  | _ => none

def made? : Note → Option Seal
  | sealed made => some made
  | _ => none

def gap? : Note → Option Bytes
  | abandoned rest => some rest
  | _ => none

end Note

def Lossless (notes : List Note) : Prop := ∀ note ∈ notes, note.isLoss = false

def saltsIn (notes : List Note) : List Bytes := notes.filterMap Note.salt?

def sealsIn (notes : List Note) : List Seal := notes.filterMap Note.made?

def gapsIn (notes : List Note) : List Bytes := notes.filterMap Note.gap?

theorem saltsIn_append (notes more : List Note) : saltsIn (notes ++ more) = saltsIn notes ++ saltsIn more :=
  List.filterMap_append

theorem sealsIn_append (notes more : List Note) : sealsIn (notes ++ more) = sealsIn notes ++ sealsIn more :=
  List.filterMap_append

theorem gapsIn_append (notes more : List Note) : gapsIn (notes ++ more) = gapsIn notes ++ gapsIn more :=
  List.filterMap_append

theorem gapsIn_lossless {notes : List Note} (lossless : Lossless notes) : gapsIn notes = [] := by
  refine List.filterMap_eq_nil_iff.mpr fun note member => ?_
  have kept := lossless note member
  cases note with
  | drawn | sealed => rfl
  | abandoned => cases kept

section Sealed

variable (made : List Seal)

theorem lossless_sealed : Lossless (made.map .sealed) := by
  intro note member
  obtain ⟨one, -, rfl⟩ := List.mem_map.mp member
  rfl

theorem saltsIn_sealed : saltsIn (made.map .sealed) = [] := by
  induction made with
  | nil => rfl
  | cons one rest ih => exact ih

theorem sealsIn_sealed : sealsIn (made.map .sealed) = made := by
  induction made with
  | nil => rfl
  | cons one rest ih => exact congrArg (one :: ·) ih

end Sealed

structure Noted (α : Type) where
  value : α
  notes : List Note

namespace Noted

instance : Monad Noted where
  pure value := ⟨value, []⟩
  bind noted next := ⟨(next noted.value).value, noted.notes ++ (next noted.value).notes⟩

def write (note : Note) : Noted Unit := ⟨(), [note]⟩

variable {α β : Type} (noted : Noted α) (next : α → Noted β)

@[simp] theorem value_pure (value : α) : (pure value : Noted α).value = value := rfl

@[simp] theorem notes_pure (value : α) : (pure value : Noted α).notes = [] := rfl

@[simp] theorem value_bind : (noted >>= next).value = (next noted.value).value := rfl

@[simp] theorem notes_bind : (noted >>= next).notes = noted.notes ++ (next noted.value).notes := rfl

@[simp] theorem notes_write (note : Note) : (write note).notes = [note] := rfl

theorem value_run_bind (first : ExceptT Fault Noted α) (next : α → ExceptT Fault Noted β) :
    (first >>= next).run.value = first.run.value.bind fun value => (next value).run.value := by
  rw [ExceptT.run_bind, value_bind]
  cases first.run.value with
  | error fault => rfl
  | ok value => rfl

theorem notes_run_bind (first : ExceptT Fault Noted α) (next : α → ExceptT Fault Noted β) {value : α}
    (done : first.run.value = .ok value) : (first >>= next).run.notes = first.run.notes ++ (next value).run.notes := by
  rw [ExceptT.run_bind, notes_bind, done]

end Noted

def Aead.encryptNoted (session : Aead) (nonce : Nonce) (text : Bytes) : ExceptT Fault Noted Bytes :=
  ExceptT.mk ⟨session.encrypt nonce text, [.sealed ⟨session, nonce, text⟩]⟩

theorem Aead.value_encryptNoted (session : Aead) (nonce : Nonce) (text : Bytes) :
    (session.encryptNoted nonce text).run.value = session.encrypt nonce text := rfl

namespace Wire

def chunkNoted (session : Aead) (nonce : Nonce) (payload : Bytes) : ExceptT Fault Noted (Bytes × Nonce) := do
  let length ← session.encryptNoted nonce (Bytes.ofNatBE lengthSize payload.length)
  let body ← session.encryptNoted nonce.next payload
  return (length ++ body, nonce.next.next)

def chunksNoted (session : Aead) : Nonce → List Bytes → ExceptT Fault Noted (Bytes × Nonce)
  | nonce, [] => return ([], nonce)
  | nonce, payload :: rest => do
    let (first, nonce) ← chunkNoted session nonce payload
    let (others, nonce) ← chunksNoted session nonce rest
    return (first ++ others, nonce)

theorem value_chunkNoted (session : Aead) (nonce : Nonce) (payload : Bytes) :
    (chunkNoted session nonce payload).run.value = chunk session nonce payload := by
  simp only [chunkNoted, chunk, Noted.value_run_bind]
  rfl

theorem value_chunksNoted (session : Aead) (nonce : Nonce) (payloads : List Bytes) :
    (chunksNoted session nonce payloads).run.value = chunks session nonce payloads := by
  induction payloads generalizing nonce with
  | nil => rfl
  | cons payload rest ih =>
      simp only [chunksNoted, chunks, Noted.value_run_bind, value_chunkNoted, ih]
      rfl

/-- The seals of chunks, the first of which has its length sealed under nonce `count`. -/
def seals (session : Aead) : (count : Nat) → List Bytes → List Seal
  | _, [] => []
  | count, payload :: rest =>
    ⟨session, .ofNat count, Bytes.ofNatBE lengthSize payload.length⟩ :: ⟨session, .ofNat (count + 1), payload⟩ ::
      seals session (count + 2) rest

theorem notes_chunkNoted (session : Aead) (count : Nat) (payload : Bytes) (bounded : payload.length ≤ longestPayload) :
    (chunkNoted session (.ofNat count) payload).run.notes = (seals session count [payload]).map .sealed := by
  have length := (session.value_encryptNoted (.ofNat count) _).trans
    (session.encrypt_eq (.ofNat count) _ (lengthField_short session payload))
  have body := (session.value_encryptNoted (.ofNat (count + 1)) payload).trans
    (session.encrypt_eq (.ofNat (count + 1)) payload (sealable session bounded))
  unfold chunkNoted
  rw [Noted.notes_run_bind _ _ length, Nonce.next_ofNat, Noted.notes_run_bind _ _ body]
  rfl

theorem notes_chunksNoted (session : Aead) (count : Nat) (payloads : List Bytes) (sendable : Sendable payloads) :
    (chunksNoted session (.ofNat count) payloads).run.notes = (seals session count payloads).map .sealed := by
  induction payloads generalizing count with
  | nil => rfl
  | cons payload rest ih =>
      have bounded := (sendable payload List.mem_cons_self).2
      have others : Sendable rest := fun other member => sendable other (List.mem_cons_of_mem _ member)
      have first := (value_chunkNoted session (.ofNat count) payload).trans (chunk_eq session count payload bounded)
      have later := (value_chunksNoted session (.ofNat (count + 2)) rest).trans
        (chunks_eq session (count + 2) rest others)
      unfold chunksNoted
      rw [Noted.notes_run_bind _ _ first, notes_chunkNoted session count payload bounded,
        Noted.notes_run_bind _ _ later, ih (count + 2) others]
      simp [seals]

end Wire

namespace Sealer

def beginNoted (sealer : Sealer) : Noted (Except Fault (Aead × Bytes) × Sealer) :=
  match sealer.session with
  | some session => return (.ok (session, []), sealer)
  | none => do
    let asked := { sealer with attempts := sealer.attempts + 1 }
    let drawn := sealer.salts.draw sealer.attempts sealer.key.saltSize
    Noted.write (.drawn drawn)
    match drawn with
    | .error fault => return (.error fault, asked)
    | .ok salt =>
      match sealer.key.session salt with
      | .error fault => return (.error fault, asked)
      | .ok session => return (.ok (session, salt), { asked with session := some session })

def sealDataNoted (sealer : Sealer) (data : Bytes) : Noted (Except Fault Bytes × Sealer) := do
  match ← sealer.beginNoted with
  | (.error fault, sealer) => return (.error fault, sealer)
  | (.ok (session, salt), sealer) =>
    match ← (Wire.chunksNoted session sealer.nonce (data.pieces Wire.longestPayload)).run with
    | .error fault => return (.error fault, sealer)
    | .ok (sealed, nonce) => return (.ok (salt ++ sealed), { sealer with nonce })

theorem value_beginNoted (sealer : Sealer) : sealer.beginNoted.value = sealer.begin := by
  unfold beginNoted begin
  cases sealer.session with
  | some session => rfl
  | none =>
      dsimp only
      rw [Noted.value_bind]
      cases sealer.salts.draw sealer.attempts sealer.key.saltSize with
      | error fault => rfl
      | ok salt =>
          dsimp only
          cases sealer.key.session salt with
          | error fault => rfl
          | ok session => rfl

theorem value_sealDataNoted (sealer : Sealer) (data : Bytes) :
    (sealer.sealDataNoted data).value = sealer.sealData data := by
  unfold sealDataNoted sealData
  rw [Noted.value_bind, value_beginNoted]
  obtain ⟨fault | ⟨session, salt⟩, begun⟩ := sealer.begin
  · rfl
  · dsimp only
    rw [Noted.value_bind, Wire.value_chunksNoted]
    cases Wire.chunks session begun.nonce (data.pieces Wire.longestPayload) with
    | error fault => rfl
    | ok sealed => rfl

variable {sealer : Sealer} {session : Aead} {salt : Bytes} {fault : Fault} {count : Nat}

theorem notes_sealDataNoted_begun (begun : sealer.session = some session) (nonce : sealer.nonce = .ofNat count)
    (data : Bytes) : (sealer.sealDataNoted data).notes =
      (Wire.seals session count (data.pieces Wire.longestPayload)).map .sealed := by
  have pieces := Wire.sendable_pieces data
  have sealed := Wire.chunks_eq session count _ pieces
  unfold sealDataNoted beginNoted
  simp only [begun, Noted.notes_bind, Noted.value_pure, Noted.notes_pure, List.nil_append, nonce,
    Wire.notes_chunksNoted session count _ pieces, Wire.value_chunksNoted, sealed, List.append_nil]

theorem notes_sealDataNoted_first (unbegun : sealer.session = none) (nonce : sealer.nonce = .ofNat count)
    (drawn : sealer.salts.draw sealer.attempts sealer.key.saltSize = .ok salt)
    (ofSalt : sealer.key.session salt = .ok session) (data : Bytes) : (sealer.sealDataNoted data).notes =
      .drawn (.ok salt) :: (Wire.seals session count (data.pieces Wire.longestPayload)).map .sealed := by
  have pieces := Wire.sendable_pieces data
  have sealed := Wire.chunks_eq session count _ pieces
  unfold sealDataNoted beginNoted
  simp only [unbegun, drawn, ofSalt, Noted.notes_bind, Noted.value_bind, Noted.value_pure, Noted.notes_pure,
    Noted.notes_write, nonce, Wire.notes_chunksNoted session count _ pieces, Wire.value_chunksNoted, sealed,
    List.append_nil, List.singleton_append]

theorem notes_sealDataNoted_unsalted (unbegun : sealer.session = none)
    (undrawn : sealer.salts.draw sealer.attempts sealer.key.saltSize = .error fault) (data : Bytes) :
    (sealer.sealDataNoted data).notes = [.drawn (.error fault)] := by
  unfold sealDataNoted beginNoted
  simp only [unbegun, undrawn, Noted.notes_bind, Noted.value_bind, Noted.value_pure, Noted.notes_pure,
    Noted.notes_write, List.append_nil]

end Sealer

namespace Writer

variable {σ : Type} [ByteSink σ]

def sendNoted (writer : Writer σ) (request : Request) (ticket : Ticket) (rest : Bytes) : Noted (Step σ) :=
  match drain .stuck writer.sink rest with
  | (.stalled reason, rest, sink) => return ⟨.stalled reason, { writer with sink }, .sending ticket rest⟩
  | (.ready (.error error), rest, sink) => do
    Noted.write (.abandoned rest)
    return { writer with sink }.conclude (.error error)
  | (.ready (.ok _), _, sink) => return { writer with sink }.finish request ticket

def startNoted (writer : Writer σ) (request : Request) (ticket : Ticket) : Noted (Step σ) :=
  let data := writer.queued ++ request.data
  let taken := { writer with queued := [] }
  if data.isEmpty then return taken.finish request ticket
  else do
    match ← taken.sealer.sealDataNoted data with
    | (.error fault, sealer) => return { taken with sealer }.conclude (.error (.ofFault fault))
    | (.ok sealed, sealer) => Writer.sendNoted { taken with sealer } request ticket sealed

def pollNoted (writer : Writer σ) (operation : Operation) : Noted (Step σ) :=
  match operation.stage with
  | .unstarted =>
    let (ticket, lock) := writer.lock.request
    let asked := { writer with lock }
    if lock.holder = some ticket then asked.startNoted operation.request ticket
    else return ⟨.stalled (.turn ticket), asked, .waiting ticket⟩
  | .waiting ticket =>
    if writer.lock.holder = some ticket then writer.startNoted operation.request ticket
    else return ⟨.stalled (.turn ticket), writer, .waiting ticket⟩
  | .sending ticket rest => writer.sendNoted operation.request ticket rest
  | .finishing ticket => return writer.finish operation.request ticket
  | .finished => return ⟨.stalled .peer, writer, .finished⟩

omit [ByteSink σ] in
def cancelNoted (writer : Writer σ) (operation : Operation) : Noted (Writer σ) :=
  match operation.stage with
  | .waiting ticket => return { writer with lock := writer.lock.leave ticket }
  | .sending ticket rest => do
    Noted.write (.abandoned rest)
    return { writer with lock := writer.lock.leave ticket }
  | .finishing ticket => return { writer with lock := writer.lock.leave ticket }
  | _ => return writer

variable (writer : Writer σ) (request : Request) (ticket : Ticket) (operation : Operation)

theorem value_sendNoted (rest : Bytes) :
    (writer.sendNoted request ticket rest).value = writer.send request ticket rest := by
  unfold sendNoted send
  obtain ⟨(error | done) | reason, left, sink⟩ := drain .stuck writer.sink rest
  · rfl
  · rfl
  · rfl

theorem value_startNoted : (writer.startNoted request ticket).value = writer.start request ticket := by
  unfold startNoted start
  by_cases empty : (writer.queued ++ request.data).isEmpty
  · rw [if_pos empty, if_pos empty, Noted.value_pure]
  · rw [if_neg empty, if_neg empty, Noted.value_bind, Sealer.value_sealDataNoted]
    obtain ⟨fault | sealed, sealer⟩ := writer.sealer.sealData (writer.queued ++ request.data)
    · rfl
    · exact value_sendNoted _ request ticket sealed

def turnNoted : Stage → Noted (Step σ)
  | .sending _ rest => writer.sendNoted request ticket rest
  | .finishing _ => return writer.finish request ticket
  | _ => writer.startNoted request ticket

theorem value_pollNoted : (writer.pollNoted operation).value = writer.poll operation := by
  unfold pollNoted poll
  cases operation.stage with
  | unstarted =>
      dsimp only
      split
      · exact value_startNoted _ operation.request _
      · rfl
  | waiting ticket =>
      dsimp only
      split
      · exact value_startNoted _ operation.request _
      · rfl
  | sending ticket rest => exact value_sendNoted _ operation.request ticket rest
  | finishing ticket => rfl
  | finished => rfl

omit [ByteSink σ] in
theorem value_cancelNoted : (writer.cancelNoted operation).value = writer.cancel operation := by
  unfold cancelNoted cancel
  cases operation.stage <;> rfl

variable {writer request ticket operation} {asked : Lock}

theorem pollNoted_granted (asks : operation.stage.asks writer.lock = some (ticket, asked))
    (holds : asked.holder = some ticket) :
    writer.pollNoted operation = { writer with lock := asked }.turnNoted operation.request ticket operation.stage := by
  obtain ⟨request, stage⟩ := operation
  unfold pollNoted
  cases stage with
  | unstarted =>
      have requested : writer.lock.request = (ticket, asked) := Option.some.inj asks
      dsimp only
      rw [requested, if_pos holds]
      rfl
  | waiting =>
      cases asks
      exact if_pos holds
  | sending | finishing =>
      cases asks
      rfl
  | finished => cases asks

theorem notes_pollNoted_waits (asks : operation.stage.asks writer.lock = some (ticket, asked))
    (idle : operation.stage.isActive = false) (waits : asked.holder ≠ some ticket) :
    (writer.pollNoted operation).notes = [] := by
  obtain ⟨request, stage⟩ := operation
  unfold pollNoted
  cases stage with
  | unstarted =>
      have requested : writer.lock.request = (ticket, asked) := Option.some.inj asks
      dsimp only
      rw [requested, if_neg waits]
      rfl
  | waiting =>
      cases asks
      dsimp only
      rw [if_neg waits]
      rfl
  | sending | finishing => cases idle
  | finished => cases asks

end Writer
end SealedTunnel
