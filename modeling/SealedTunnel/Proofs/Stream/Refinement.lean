import SealedTunnel.Proofs.Scripted.Source
import SealedTunnel.Proofs.Stream.Following

namespace SealedTunnel.Reader

variable {ρ : Type}

section Opening

theorem openFront_eq (reader : Reader ρ) {session : Aead} {count length : Nat}
    (begun : reader.session = some session) (nonce : reader.nonce = .ofNat count)
    (complete : length + tagSize ≤ reader.buffer.length) :
    reader.openFront length =
      match session.decrypt (.ofNat count) (reader.buffer.take (length + tagSize)) with
      | .error _ => (.error refusal, { reader with buffer := reader.buffer.drop (length + tagSize), state := .refused })
      | .ok plaintext =>
        (.ok plaintext, { reader with buffer := reader.buffer.drop (length + tagSize), nonce := .ofNat (count + 1) }) := by
  have size : (reader.buffer.take (length + tagSize)).length = length + tagSize := List.length_take_of_le complete
  rw [← Aead.openParts_split session _ _ length size]
  simp only [openFront, begun, nonce]
  cases opened : session.openParts (.ofNat count) ((reader.buffer.take (length + tagSize)).take length)
      ((reader.buffer.take (length + tagSize)).drop length) with
  | ok plaintext => simp
  | error fault =>
      rw [Aead.openParts_error opened]
      rfl

theorem decodeBody_lacking (session : Aead) (count : Nat) {size : Nat} {bytes : Bytes}
    (lacking : bytes.length < size + tagSize) : Wire.decodeBody session count size bytes = ([], .truncated) :=
  if_pos lacking

end Opening

section Rounds

variable [ByteSource ρ] (yields : ρ → Bytes → Prop) (before : List Interruption) (room : Nat)

inductive Answers (bytes : Bytes) (ending : Wire.End) :
    Poll (Except IoError Bytes) → Reader (Heard ρ) → Prop
  | piece {piece rest : Bytes} {next : Reader (Heard ρ)} (taken : bytes = piece ++ rest)
      (fits : piece.length ≤ room) (some : 0 < room → piece ≠ []) (quiet : next.source.interruptions = before)
      (expects : Expects yields next rest ending) : Answers bytes ending (.ready (.ok piece)) next
  | ended {next : Reader (Heard ρ)} (nothing : bytes = []) (wide : 0 < room)
      (quiet : next.source.interruptions = before) (settled : ending = .refused → next.HasRefused)
      (expects : Expects yields next [] ending) : Answers bytes ending ending.answer next
  | interrupted {next : Reader (Heard ρ)} (interruption : Interruption)
      (noted : next.source.interruptions = before ++ [interruption])
      (expects : Expects yields next bytes ending) : Answers bytes ending interruption.answer next

def Round.Keeps (bytes : Bytes) (ending : Wire.End) : Round (Heard ρ) → Prop
  | .answer result next => Answers yields before room bytes ending result next
  | .again next => next.source.interruptions = before ∧ Expects yields next bytes ending

variable {yields before room}

theorem withBytes_keeps {reader : Reader (Heard ρ)} {needed : Nat} {left bytes : Bytes} {ending : Wire.End}
    {go atEnd : Reader (Heard ρ) → Round (Heard ρ)} (delivers : Delivers yields)
    (has : yields reader.source.source left)
    (kept : ∀ (source : Heard ρ) (buffer later : Bytes), yields source.source later →
      buffer ++ later = reader.buffer ++ left → Expects yields { reader with source, buffer } bytes ending)
    (goes : ∀ (source : Heard ρ) (buffer later : Bytes), yields source.source later →
      buffer ++ later = reader.buffer ++ left → needed ≤ buffer.length →
      source.interruptions = reader.source.interruptions →
      (go { reader with source, buffer }).Keeps yields reader.source.interruptions room bytes ending)
    (ends : ∀ (source : Heard ρ) (buffer : Bytes), yields source.source [] → buffer = reader.buffer ++ left →
      buffer.length < needed → source.interruptions = reader.source.interruptions →
      (atEnd { reader with source, buffer }).Keeps yields reader.source.interruptions room bytes ending) :
    (reader.withBytes needed go atEnd).Keeps yields reader.source.interruptions room bytes ending := by
  obtain ⟨later, still, moved, reports⟩ := gather_reports delivers reader.source reader.buffer needed has
  unfold withBytes
  split
  · rename_i reason source buffer gathered
    rw [gathered] at still moved reports
    exact .interrupted (.stalled reason) reports (kept _ _ _ still moved)
  · rename_i error source buffer gathered
    rw [gathered] at still moved reports
    exact .interrupted (.failed error) reports (kept _ _ _ still moved)
  · rename_i source buffer gathered
    rw [gathered] at still moved reports
    obtain ⟨short, rfl, quiet⟩ := reports
    exact ends _ _ still ((List.append_nil _).symm.trans moved) short quiet
  · rename_i source buffer gathered
    rw [gathered] at still moved reports
    exact goes _ _ _ still moved reports.1 reports.2

omit [ByteSource ρ] in
theorem endOfSource_keeps (reader : Reader (Heard ρ)) {bytes : Bytes} {ending : Wire.End} (wide : 0 < room)
    (nothing : reader.plaintext = []) (quiet : reader.source.interruptions = before)
    (whole : reader.buffer = [] → bytes = [] ∧ ending = .whole)
    (truncated : reader.buffer ≠ [] → bytes = [] ∧ ending = .truncated ∧ Expects yields reader [] .truncated) :
    reader.endOfSource.Keeps yields before room bytes ending := by
  unfold endOfSource
  by_cases empty : reader.buffer = []
  · obtain ⟨rfl, rfl⟩ := whole empty
    rw [if_pos (List.isEmpty_iff.mpr empty)]
    exact .ended rfl wide quiet (fun other => by cases other) (.ended rfl nothing rfl rfl)
  · obtain ⟨rfl, rfl, expects⟩ := truncated empty
    rw [if_neg (fun none => empty (List.isEmpty_iff.mp none))]
    exact .ended rfl wide quiet (fun other => by cases other) expects

theorem round_salt {reader : Reader (Heard ρ)} {left : Bytes} {payloads : List Bytes} {ending : Wire.End}
    (delivers : Delivers yields) (has : yields reader.source.source left) (wide : 0 < room)
    (state : reader.state = .salt) (nothing : reader.plaintext = []) (nonce : reader.nonce = .zero)
    (decoded : Wire.decode reader.key (reader.buffer ++ left) = (payloads, ending)) :
    reader.round.Keeps yields reader.source.interruptions room payloads.flatten ending := by
  have positive := saltSize_pos reader.key
  simp only [round, state]
  apply withBytes_keeps delivers has
  · intro source buffer later still moved
    exact .salt still state nothing nonce (moved ▸ decoded) rfl
  · intro source buffer later still moved long quiet
    rw [← moved] at decoded
    have full : ¬ (buffer ++ later).isEmpty = true := by
      rw [List.isEmpty_iff_length_eq_zero, List.length_append]
      omega
    have enough : ¬ (buffer ++ later).length < reader.key.saltSize := by
      rw [List.length_append]
      omega
    obtain ⟨session, begun⟩ := reader.key.session_ok (buffer.take reader.key.saltSize)
    rw [Wire.decode, if_neg full, if_neg enough, List.take_append_of_le_length long, begun,
      List.drop_append_of_le_length long] at decoded
    simp only [beginSession, begun]
    refine ⟨quiet, .length still rfl rfl (nonce.trans Nonce.zero_eq_ofNat) decoded ?_⟩
    exact congrArg (· ++ payloads.flatten) nothing
  · intro source buffer still whole short quiet
    rw [← whole] at decoded
    apply endOfSource_keeps { reader with source, buffer } wide nothing quiet
    · intro empty
      subst buffer
      cases decoded.symm.trans (congrArg (Wire.decode reader.key) empty)
      exact ⟨rfl, rfl⟩
    · intro some
      have lacking : Wire.decode reader.key buffer = ([], .truncated) := by
        rw [Wire.decode, if_neg (fun none => some (List.isEmpty_iff.mp none)), if_pos short]
      cases decoded.symm.trans lacking
      refine ⟨rfl, rfl, .salt still state nothing nonce ?_ List.flatten_nil⟩
      rw [List.append_nil]
      exact lacking

theorem round_length {reader : Reader (Heard ρ)} {session : Aead} {count : Nat} {left : Bytes}
    {payloads : List Bytes} {ending : Wire.End} (delivers : Delivers yields) (has : yields reader.source.source left)
    (wide : 0 < room) (state : reader.state = .length) (nothing : reader.plaintext = [])
    (begun : reader.session = some session) (nonce : reader.nonce = .ofNat count)
    (decoded : Wire.decodeChunks session count (reader.buffer ++ left) = (payloads, ending)) :
    reader.round.Keeps yields reader.source.interruptions room payloads.flatten ending := by
  simp only [round, state]
  apply withBytes_keeps delivers has
  · intro source buffer later still moved
    exact .length still state begun nonce (moved ▸ decoded) (congrArg (· ++ payloads.flatten) nothing)
  · intro source buffer later still moved long quiet
    rw [← moved, Wire.decodeChunks_long session count _ (by rw [List.length_append]; omega),
      List.take_append_of_le_length long, List.drop_append_of_le_length long] at decoded
    unfold openLength
    rw [openFront_eq { reader with source, buffer } begun nonce long]
    cases opened : session.decrypt (.ofNat count) (buffer.take (Wire.lengthSize + tagSize)) with
    | error fault =>
        rw [opened] at decoded
        cases decoded
        exact .ended rfl wide quiet (fun _ => ⟨rfl, nothing⟩) (.refused rfl nothing rfl rfl)
    | ok length =>
        rw [opened] at decoded
        exact ⟨quiet, .payload still rfl nothing begun rfl decoded rfl⟩
  · intro source buffer still whole short quiet
    rw [← whole] at decoded
    apply endOfSource_keeps { reader with source, buffer } wide nothing quiet
    · intro empty
      have ended := (congrArg (Wire.decodeChunks session count) empty).trans (Wire.decodeChunks_nil session count)
      cases decoded.symm.trans ended
      exact ⟨rfl, rfl⟩
    · intro some
      have lacking := Wire.decodeChunks_short session count buffer some short
      cases decoded.symm.trans lacking
      refine ⟨rfl, rfl, .length still state begun nonce ?_ (congrArg (· ++ ([] : List Bytes).flatten) nothing)⟩
      rw [List.append_nil]
      exact lacking

theorem round_payload {reader : Reader (Heard ρ)} {session : Aead} {count size : Nat} {left : Bytes}
    {payloads : List Bytes} {ending : Wire.End} (delivers : Delivers yields) (has : yields reader.source.source left)
    (wide : 0 < room) (state : reader.state = .payload size) (nothing : reader.plaintext = [])
    (begun : reader.session = some session) (nonce : reader.nonce = .ofNat count)
    (decoded : Wire.decodeBody session count size (reader.buffer ++ left) = (payloads, ending)) :
    reader.round.Keeps yields reader.source.interruptions room payloads.flatten ending := by
  simp only [round, state]
  apply withBytes_keeps delivers has
  · intro source buffer later still moved
    exact .payload still state nothing begun nonce (moved ▸ decoded) rfl
  · intro source buffer later still moved long quiet
    have enough : ¬ (buffer ++ later).length < size + tagSize := by
      rw [List.length_append]
      omega
    rw [← moved, Wire.decodeBody, if_neg enough, List.take_append_of_le_length long,
      List.drop_append_of_le_length long] at decoded
    unfold openPayload
    rw [openFront_eq { reader with source, buffer } begun nonce long]
    cases opened : session.decrypt (.ofNat count) (buffer.take (size + tagSize)) with
    | error fault =>
        rw [opened] at decoded
        cases decoded
        exact .ended rfl wide quiet (fun _ => ⟨rfl, nothing⟩) (.refused rfl nothing rfl rfl)
    | ok plaintext =>
        rw [opened] at decoded
        cases decoded
        exact ⟨quiet, .length still rfl begun rfl rfl rfl⟩
  · intro source buffer still whole short quiet
    rw [← whole] at decoded
    have lacking := decodeBody_lacking session count short
    cases decoded.symm.trans lacking
    refine .ended rfl wide quiet (fun other => by cases other) ?_
    refine .payload still state nothing begun nonce ?_ List.flatten_nil
    rw [List.append_nil]
    exact lacking

theorem round_keeps {reader : Reader (Heard ρ)} {bytes : Bytes} {ending : Wire.End} (delivers : Delivers yields)
    (wide : 0 < room) (nothing : reader.plaintext = []) (expects : Expects yields reader bytes ending) :
    reader.round.Keeps yields reader.source.interruptions room bytes ending := by
  cases expects with
  | salt has state _ nonce decoded still =>
      subst still
      exact round_salt delivers has wide state nothing nonce decoded
  | length has state begun nonce decoded still =>
      rw [nothing, List.nil_append] at still
      subst still
      exact round_length delivers has wide state nothing begun nonce decoded
  | payload has state _ begun nonce decoded still =>
      subst still
      exact round_payload delivers has wide state nothing begun nonce decoded
  | ended state _ spent whole =>
      subst spent whole
      simp only [round, state]
      exact .ended rfl wide rfl (fun other => by cases other) (.ended state nothing rfl rfl)
  | refused state _ spent refused =>
      subst spent refused
      simp only [round, state]
      exact .ended rfl wide rfl (fun _ => ⟨state, nothing⟩) (.refused state nothing rfl rfl)

theorem poll_answers {reader : Reader (Heard ρ)} {bytes : Bytes} {ending : Wire.End} (room : Nat)
    (delivers : Delivers yields) (expects : Expects yields reader bytes ending) :
    Answers yields reader.source.interruptions room bytes ending (reader.poll room).1 (reader.poll room).2 := by
  fun_induction Reader.poll reader room with
  | case1 reader full =>
      have opened : reader.plaintext ≠ [] := by simpa using full
      cases expects with
      | @length left session count payloads has state begun nonce decoded still =>
          have taken : bytes = reader.plaintext.take room ++ (reader.plaintext.drop room ++ payloads.flatten) := by
            rw [← List.append_assoc, List.take_append_drop, still]
          refine .piece taken (List.length_take_le _ _) (fun wide => ?_) rfl (.length has state begun nonce decoded rfl)
          rw [ne_eq, List.take_eq_nil_iff]
          exact fun none => none.elim (by omega) opened
      | salt _ _ nothing | payload _ _ nothing | ended _ nothing | refused _ nothing => exact absurd nothing opened
  | case2 reader empty narrow =>
      exact .piece rfl (Nat.zero_le room) (fun wide => absurd narrow (Nat.ne_of_gt wide)) rfl expects
  | case3 reader empty narrow result next round =>
      have keeps := round_keeps delivers (Nat.pos_of_ne_zero narrow) (by simpa using empty) expects
      rw [round] at keeps
      exact keeps
  | case4 reader empty narrow next round ih =>
      have keeps := round_keeps delivers (Nat.pos_of_ne_zero narrow) (by simpa using empty) expects
      rw [round] at keeps
      rw [← keeps.1]
      exact ih keeps.2

end Rounds

section Series

variable [ByteSource ρ] {yields : ρ → Bytes → Prop}

theorem reads_refused {reader : Reader (Heard ρ)} (refused : reader.HasRefused) (rooms : List Nat) :
    (reader.reads rooms).2 = reader := by
  induction rooms with
  | nil => rfl
  | cons room rooms ih =>
      rw [reads, poll_refused_same refused]
      exact ih

/-- A series of reads follows what is expected. What interrupts the source surfaces once, and a
refusal is for ever. -/
theorem reads_follow {reader : Reader (Heard ρ)} {bytes : Bytes} {ending : Wire.End} (delivers : Delivers yields)
    (expects : Expects yields reader bytes ending) (rooms : List Nat) :
    Reading.Follow bytes ending (reader.reads rooms).1 ∧
      (reader.reads rooms).2.source.interruptions =
        reader.source.interruptions ++ (reader.reads rooms).1.flatMap Reading.interruptions ∧
      ((∃ reading ∈ (reader.reads rooms).1, reading.Refused) → (reader.reads rooms).2.HasRefused) := by
  -- Each read leaves a reader of which the rest of the bytes is expected.
  induction rooms generalizing reader bytes with
  | nil => exact ⟨.start, (List.append_nil _).symm, fun ⟨reading, mem, _⟩ => absurd mem List.not_mem_nil⟩
  | cons room rooms ih =>
      have answers := poll_answers room delivers expects
      simp only [reads, List.flatMap_cons, List.mem_cons, exists_eq_or_imp]
      generalize reader.poll room = step at answers
      obtain ⟨answer, next⟩ := step
      dsimp only at answers ⊢
      cases answers with
      | piece taken fits some quiet expects =>
          obtain ⟨follow, surfaced, settled⟩ := ih expects
          rw [quiet, List.drop_length]
          refine ⟨taken ▸ .piece fits some follow, quiet ▸ surfaced, ?_⟩
          rintro (⟨_, refused⟩ | later)
          · cases refused
          · exact settled later
      | ended nothing wide quiet refuses expects =>
          obtain ⟨follow, surfaced, settled⟩ := ih expects
          rw [quiet, List.drop_length]
          refine ⟨nothing ▸ .ended wide follow, quiet ▸ surfaced, ?_⟩
          rintro (⟨_, refused⟩ | later)
          · have refused := refuses (Wire.End.answer_eq_refusal refused)
            rwa [reads_refused refused]
          · exact settled later
      | interrupted interruption noted expects =>
          obtain ⟨follow, surfaced, settled⟩ := ih expects
          rw [noted, List.drop_left]
          refine ⟨.interrupted interruption follow, ?_, ?_⟩
          · rw [surfaced, noted, List.append_assoc]
          · rintro (⟨quiet, _⟩ | later)
            · cases quiet
            · exact settled later

omit [ByteSource ρ] in
theorem expects_fresh (key : MasterKey) {source : ρ} {wire : Bytes} (has : yields source wire) :
    Expects yields (fresh key ⟨source, []⟩) (Wire.decode key wire).1.flatten (Wire.decode key wire).2 :=
  .salt has rfl rfl rfl rfl rfl

theorem reads_follow_decode (key : MasterKey) {source : ρ} {wire : Bytes} (has : Yields source wire) (rooms : List Nat) :
    Reading.Follow (Wire.decode key wire).1.flatten (Wire.decode key wire).2
      ((fresh key (⟨source, []⟩ : Heard ρ)).reads rooms).1 := by
  obtain ⟨yields, delivers, has⟩ := has
  exact (reads_follow delivers (expects_fresh key has) rooms).1

/-- Reading from a source of any bytes, in any pieces and with any interruptions, delivers what decoding
those bytes at once gives, and each effective read after that tells how they end. Each interruption
surfaces once and costs no byte. After a refusal the source is left alone. -/
theorem reads_decode (key : MasterKey) (source : ρ) (wire : Bytes) (has : Yields source wire) (rooms : List Nat) :
    let run := (fresh key (⟨source, []⟩ : Heard ρ)).reads rooms
    Reading.Tell (Wire.decode key wire).1.flatten (Wire.decode key wire).2 run.1 ∧
      run.2.source.interruptions = run.1.flatMap Reading.interruptions ∧
      ((∃ reading ∈ run.1, reading.Refused) →
        ∀ room, 0 < room → run.2.poll room = (.ready (.error refusal), run.2)) := by
  obtain ⟨yields, delivers, has⟩ := has
  obtain ⟨follow, surfaced, settled⟩ := reads_follow delivers (expects_fresh key has) rooms
  exact ⟨follow.tell, surfaced, fun refused room wide => poll_refused (settled refused) wide⟩

theorem reads_decode_script :
    let key : MasterKey := ⟨⟨"aes-128-gcm", "AEAD_AES_128_GCM", .aes128Gcm⟩, []⟩
    let source := Scripted.Source.ofItems [.yield, .data [1, 2], .fail (.bare .connectionReset), .data [3]] false
    Yields source [1, 2, 3] ∧ Reading.Tell [] .truncated ((fresh key ⟨source, []⟩).reads [4, 0, 4, 4]).1 := by
  intro key source
  have has : Yields source [1, 2, 3] := Scripted.Source.yields_data source (by decide)
  have decoded : Wire.decode key [1, 2, 3] = ([], .truncated) := rfl
  have told := (reads_decode key source [1, 2, 3] has [4, 0, 4, 4]).1
  rw [decoded] at told
  exact ⟨has, told⟩

end Series
end SealedTunnel.Reader
