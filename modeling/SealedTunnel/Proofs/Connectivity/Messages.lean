import SealedTunnel.Connectivity.Framing
import SealedTunnel.Proofs.Timeline.Instant
import SealedTunnel.Proofs.Timeline.Waiting

/-!
What sending and receiving a message come to, told by the calls at the connection. A message is sent over a stream when
all of its frame has been accepted and then flushed; it is received when two bytes and as many as they tell have been
read. What goes on while a call stalls is left open.
-/
namespace SealedTunnel.Connectivity

open Timeline (ComesTo Continues Obtains Sequenced Tries ofCall)

variable {γ κ : Type} (between : Stall → γ → γ → Prop)

section Sink

variable [ByteSink γ]

/-- Writes of what is left of some bytes, up to what is left then. Interrupted writes are made again, and so are those
that stall. -/
inductive Writes : Bytes → γ → Bytes → γ → Prop
  | start {bytes : Bytes} {line : γ} : Writes bytes line bytes line
  | accepted {bytes left : Bytes} {line mid after : γ} {count : Nat} (some : bytes ≠ [])
      (written : ByteSink.write line bytes = (.ready (.ok (count + 1)), mid))
      (rest : Writes (bytes.drop (count + 1)) mid left after) : Writes bytes line left after
  | interrupted {bytes left : Bytes} {line mid after : γ} {error : IoError} (some : bytes ≠ [])
      (written : ByteSink.write line bytes = (.ready (.error error), mid)) (again : error.kind = .interrupted)
      (rest : Writes bytes mid left after) : Writes bytes line left after
  | stalled {bytes left : Bytes} {line mid next after : γ} {reason : Stall} (some : bytes ≠ [])
      (written : ByteSink.write line bytes = (.stalled reason, mid)) (resumed : between reason mid next)
      (rest : Writes bytes next left after) : Writes bytes line left after

/-- A write that ends the sending: it fails, or nothing is accepted. -/
inductive Refuses (bytes : Bytes) (line : γ) : IoError → γ → Prop
  | failed {error : IoError} {after : γ} (written : ByteSink.write line bytes = (.ready (.error error), after))
      (final : error.kind ≠ .interrupted) : Refuses bytes line error after
  | nothing {after : γ} (written : ByteSink.write line bytes = (.ready (.ok 0), after)) :
      Refuses bytes line (.bare .writeZero) after

inductive SendsStream (query : Bytes) (line : γ) : Except IoError Unit → γ → Prop
  | tooLong (long : 0xffff < query.length) : SendsStream query line (.error (.note .invalidInput "DNS message too long")) line
  | refused {left : Bytes} {mid after : γ} {error : IoError} (short : query.length ≤ 0xffff)
      (writes : Writes between (Bytes.ofNatBE 2 query.length ++ query) line left mid) (some : left ≠ [])
      (refuses : Refuses left mid error after) : SendsStream query line (.error error) after
  | flushed {mid after : γ} {answer : Except IoError Unit} (short : query.length ≤ 0xffff)
      (writes : Writes between (Bytes.ofNatBE 2 query.length ++ query) line [] mid)
      (flushed : Obtains between ByteSink.flush mid answer after) : SendsStream query line answer after

end Sink

section Source

variable [ByteSource γ]

/-- Reads for what is missing of so many bytes, each of which yields some. -/
inductive Gathers (needed : Nat) : Bytes → γ → Bytes → γ → Prop
  | start {read : Bytes} {line : γ} : Gathers needed read line read line
  | yielded {read piece whole : Bytes} {line mid after : γ} (short : read.length < needed)
      (came : Obtains between (ByteSource.read · (needed - read.length)) line (.ok piece) mid) (some : piece ≠ [])
      (rest : Gathers needed (read ++ piece) mid whole after) : Gathers needed read line whole after

/-- Exactly so many bytes are read, or the source ends before that, or it fails. -/
inductive Collects (early : IoError) (needed : Nat) (read : Bytes) (line : γ) : Except IoError Bytes → γ → Prop
  | full {whole : Bytes} {after : γ} (gathers : Gathers between needed read line whole after)
      (exact : whole.length = needed) : Collects early needed read line (.ok whole) after
  | ended {whole : Bytes} {mid after : γ} (gathers : Gathers between needed read line whole mid)
      (short : whole.length < needed)
      (nothing : Obtains between (ByteSource.read · (needed - whole.length)) mid (.ok []) after) :
      Collects early needed read line (.error early) after
  | failed {whole : Bytes} {mid after : γ} {error : IoError} (gathers : Gathers between needed read line whole mid)
      (short : whole.length < needed)
      (failed : Obtains between (ByteSource.read · (needed - whole.length)) mid (.error error) after) :
      Collects early needed read line (.error error) after

/-- How a message is received over a stream: two bytes that tell its length, and so many bytes behind them. -/
inductive ReceivesStream (line : γ) : Except IoError Bytes → γ → Prop
  | headless {error : IoError} {after : γ} (length : Collects between (.bare .unexpectedEof) 2 [] line (.error error) after) :
      ReceivesStream line (.error error) after
  | headed {size : Bytes} {mid after : γ} {answer : Except IoError Bytes}
      (length : Collects between (.bare .unexpectedEof) 2 [] line (.ok size) mid)
      (body : Collects between (.note .unexpectedEof "early eof") size.toNatBE [] mid answer after) :
      ReceivesStream line answer after

end Source

section Carrier

variable [Carrier γ]

inductive SendsDatagram (query : Bytes) (carrier : γ) : Except IoError Unit → γ → Prop
  | unwrapped {error : TunnelError} {after : γ} (wrapped : Carrier.wrap carrier query = (.error error, after)) :
      SendsDatagram query carrier (.error error.toIoError) after
  | handed {packet : Bytes} {mid after : γ} {answer : Except TunnelError Unit}
      (wrapped : Carrier.wrap carrier query = (.ok packet, mid))
      (sent : Obtains between (Carrier.send · packet) mid answer after) :
      SendsDatagram query carrier (answer.mapError TunnelError.toIoError) after

inductive ReceivesDatagram (carrier : γ) : Except IoError Bytes → γ → Prop
  | received {after : γ} {answer : Except TunnelError Bytes}
      (came : Obtains between (Carrier.receive · 4096) carrier answer after) :
      ReceivesDatagram carrier (answer.mapError TunnelError.toIoError) after

end Carrier

variable {between}

section Sending

variable [ByteSink γ] {bytes left more : Bytes} {line mid after : γ} {answer : Except IoError Unit}

theorem Writes.trans (writes : Writes between bytes line left mid) (behind : Writes between left mid more after) :
    Writes between bytes line more after := by
  induction writes with
  | start => exact behind
  | accepted some written _ ih => exact .accepted some written (ih behind)
  | interrupted some written again _ ih => exact .interrupted some written again (ih behind)
  | stalled some written resumed _ ih => exact .stalled some written resumed (ih behind)

inductive Stops (line : γ) : Bytes → Poll (Except IoError Unit) → γ → Prop
  | done : Stops line [] (.ready (.ok ())) line
  | refused {left : Bytes} {after : γ} {error : IoError} (some : left ≠ []) (refuses : Refuses left line error after) :
      Stops line left (.ready (.error error)) after
  | stalled {left : Bytes} {after : γ} {reason : Stall} (some : left ≠ [])
      (written : ByteSink.write line left = (.stalled reason, after)) : Stops line left (.stalled reason) after

theorem drain_writes (between : Stall → γ → γ → Prop) {tried : Poll (Except IoError Unit)}
    (came : drain .stuck line bytes = (tried, left, after)) :
    ∃ mid, Writes between bytes line left mid ∧ Stops mid left tried after := by
  have nonempty : ∀ {bytes : Bytes}, ¬ bytes.length = 0 → bytes ≠ [] := fun some none => some (congrArg List.length none)
  fun_induction drain .stuck line bytes with
  | case1 =>
      cases came
      rename_i none
      rw [List.length_eq_zero_iff.mp none]
      exact ⟨_, .start, .done⟩
  | case2 _ _ some _ _ written =>
      cases came
      exact ⟨_, .start, .stalled (nonempty some) written⟩
  | case3 _ _ some _ _ written interrupted ih =>
      obtain ⟨mid, writes, stops⟩ := ih came
      exact ⟨mid, .interrupted (nonempty some) written interrupted writes, stops⟩
  | case4 _ _ some _ _ written final =>
      cases came
      exact ⟨_, .start, .refused (nonempty some) (.failed written final)⟩
  | case5 _ _ some _ written =>
      cases came
      exact ⟨_, .start, .refused (nonempty some) (.nothing written)⟩
  | case6 _ _ some _ _ written ih =>
      obtain ⟨mid, writes, stops⟩ := ih came
      exact ⟨mid, .accepted (nonempty some) written writes, stops⟩

theorem drain_stops {tried : Poll (Except IoError Unit)} (stops : Stops line left tried after) :
    drain .stuck line left = (tried, left, after) := by
  cases stops with
  | done => rw [drain]; rfl
  | stalled some written => exact drain_stalls .stuck some written
  | refused some refuses =>
      cases refuses with
      | failed written final => exact drain_fails .stuck some written final
      | nothing written =>
          rw [drain_write .stuck some, written]
          rfl

theorem comesTo_drain : ComesTo between (fun left line => drain .stuck line left) bytes line answer after ↔
    ∃ left mid, Writes between bytes line left mid ∧ Stops mid left (.ready answer) after := by
  constructor
  · rintro ⟨last, tries⟩
    induction tries with
    | ready done =>
        obtain ⟨mid, writes, stops⟩ := drain_writes between done
        exact ⟨_, mid, writes, stops⟩
    | stalled tried resumed _ ih =>
        obtain ⟨mid, writes, stops⟩ := drain_writes between tried
        obtain ⟨left, last, behind, ending⟩ := ih
        cases stops with
        | stalled some written => exact ⟨left, last, writes.trans (.stalled some written resumed behind), ending⟩
  · rintro ⟨left, mid, writes, stops⟩
    induction writes with
    | start => exact ⟨_, .ready (drain_stops stops)⟩
    | accepted some written _ ih =>
        obtain ⟨last, tries⟩ := ih stops
        refine ⟨last, .of_eq ?_ tries⟩
        rw [drain_write .stuck some, written]
    | interrupted some written again _ ih =>
        obtain ⟨last, tries⟩ := ih stops
        exact ⟨last, .of_eq (drain_interrupted .stuck some written again) tries⟩
    | stalled some written resumed _ ih =>
        obtain ⟨last, tries⟩ := ih stops
        exact ⟨last, .stalled (drain_stalls .stuck some written) resumed tries⟩

theorem sequenced_pollSend : Sequenced (fun left (line : γ) => drain .stuck line left) Sending.writing
    (fun _ => .flushing) pollSend := by
  intro left line
  unfold pollSend
  dsimp only
  cases drain .stuck line left with
  | mk tried rest =>
      match tried with
      | .stalled _ | .ready (.error _) | .ready (.ok ()) => rfl

theorem comesTo_flushing : ComesTo between pollSend .flushing line answer after ↔
    Obtains between ByteSink.flush line answer after := by
  have same : ∀ line : γ, pollSend .flushing line =
      ((ByteSink.flush line).1.map id, .flushing, (ByteSink.flush line).2) := by
    intro line
    rw [Poll.map_id]
    rfl
  rw [Timeline.comesTo_call same]
  simp

theorem sendsStream_tooLong {query : Bytes} (long : 0xffff < query.length) : SendsStream between query line answer after ↔
    answer = .error (.note .invalidInput "DNS message too long") ∧ after = line := by
  constructor
  · intro sends
    cases sends with
    | tooLong => exact ⟨rfl, rfl⟩
    | refused short | flushed short => exact absurd long (Nat.not_lt.mpr short)
  · rintro ⟨rfl, rfl⟩
    exact .tooLong long

theorem sendsStream_framed {query : Bytes} (short : query.length ≤ 0xffff) :
    SendsStream between query line answer after ↔
      ComesTo between pollSend (.writing (Bytes.ofNatBE 2 query.length ++ query)) line answer after := by
  rw [sequenced_pollSend.comesTo_iff]
  constructor
  · intro sends
    cases sends with
    | tooLong long => exact absurd long (Nat.not_lt.mpr short)
    | refused _ writes some refuses =>
        exact ⟨_, _, comesTo_drain.mpr ⟨_, _, writes, .refused some refuses⟩, .failed⟩
    | flushed _ writes flushed =>
        exact ⟨_, _, comesTo_drain.mpr ⟨_, _, writes, .done⟩, .onward (comesTo_flushing.mpr flushed)⟩
  · rintro ⟨result, mid, drained, behind⟩
    obtain ⟨left, last, writes, stops⟩ := comesTo_drain.mp drained
    cases stops with
    | done =>
        cases behind with
        | onward flushed => exact .flushed short writes (comesTo_flushing.mp flushed)
    | refused some refuses =>
        cases behind with
        | failed => exact .refused short writes some refuses

end Sending

section Receiving

variable [ByteSource γ] {read whole : Bytes} {line mid after : γ} {answer : Except IoError Bytes} {early : IoError}
  {needed : Nat}

theorem Gathers.trans (gathers : Gathers between needed read line whole mid) {more : Bytes}
    (behind : Gathers between needed whole mid more after) : Gathers between needed read line more after := by
  induction gathers with
  | start => exact behind
  | yielded short came some _ ih => exact .yielded short came some (ih behind)

inductive Halts (early : IoError) (needed : Nat) (read : Bytes) (line : γ) : Poll (Except IoError Bytes) → γ → Prop
  | full (enough : needed ≤ read.length) : Halts early needed read line (.ready (.ok read)) line
  | ended {after : γ} (short : read.length < needed)
      (nothing : ByteSource.read line (needed - read.length) = (.ready (.ok []), after)) :
      Halts early needed read line (.ready (.error early)) after
  | failed {after : γ} {error : IoError} (short : read.length < needed)
      (failed : ByteSource.read line (needed - read.length) = (.ready (.error error), after)) :
      Halts early needed read line (.ready (.error error)) after
  | stalled {after : γ} {reason : Stall} (short : read.length < needed)
      (stalled : ByteSource.read line (needed - read.length) = (.stalled reason, after)) :
      Halts early needed read line (.stalled reason) after

theorem pollExactly_gathers (between : Stall → γ → γ → Prop) {tried : Poll (Except IoError Bytes)}
    (came : pollExactly early needed read line = (tried, whole, after)) :
    ∃ mid, Gathers between needed read line whole mid ∧ Halts early needed whole mid tried after := by
  fun_induction pollExactly early needed read line with
  | case1 read line enough =>
      cases came
      exact ⟨_, .start, .full enough⟩
  | case2 _ _ short _ _ stalled =>
      cases came
      exact ⟨_, .start, .stalled (Nat.not_le.mp short) stalled⟩
  | case3 _ _ short _ _ failed =>
      cases came
      exact ⟨_, .start, .failed (Nat.not_le.mp short) failed⟩
  | case4 _ _ short _ nothing =>
      cases came
      exact ⟨_, .start, .ended (Nat.not_le.mp short) nothing⟩
  | case5 _ _ short _ _ _ yielded ih =>
      obtain ⟨mid, gathers, halts⟩ := ih came
      exact ⟨mid, .yielded (Nat.not_le.mp short) (.ready yielded) (List.cons_ne_nil _ _) gathers, halts⟩

theorem pollExactly_read (early : IoError) (short : read.length < needed) : pollExactly early needed read line =
    match ByteSource.read line (needed - read.length) with
    | (.stalled reason, after) => (.stalled reason, read, after)
    | (.ready (.error error), after) => (.ready (.error error), read, after)
    | (.ready (.ok []), after) => (.ready (.error early), read, after)
    | (.ready (.ok (byte :: rest)), after) => pollExactly early needed (read ++ byte :: rest) after := by
  fun_cases pollExactly early needed read line with
  | case1 enough => exact absurd short (Nat.not_lt.mpr enough)
  | case2 _ _ _ came | case3 _ _ _ came | case4 _ _ came | case5 _ _ _ _ came => rw [came]

section Honest

variable (honest : ∀ (line : γ) room bytes, (ByteSource.read line room).1 = .ready (.ok bytes) → bytes.length ≤ room)

include honest

theorem length_obtained {room : Nat} {found : Except IoError Bytes} {piece : Bytes}
    (obtains : Obtains between (ByteSource.read · room) line found after) (yielded : found = .ok piece) :
    piece.length ≤ room := by
  induction obtains with
  | @ready line _ _ done =>
      apply honest line
      rw [done, yielded]
  | stalled _ _ _ ih => exact ih yielded

theorem Gathers.length_le (gathers : Gathers between needed read line whole after) (bounded : read.length ≤ needed) :
    whole.length ≤ needed := by
  induction gathers with
  | start => exact bounded
  | yielded short came _ _ ih =>
      apply ih
      have fits := length_obtained honest came rfl
      rw [List.length_append]
      omega

end Honest

/-- A read that stalls and is made again belongs to what follows. -/
theorem Gathers.stalled {stopped next : γ} {reason : Stall} (short : read.length < needed)
    (tried : ByteSource.read line (needed - read.length) = (.stalled reason, stopped))
    (resumed : between reason stopped next) (gathers : Gathers between needed read next whole after) :
    Gathers between needed read line whole after ∨ whole = read ∧ after = next := by
  cases gathers with
  | start => exact Or.inr ⟨rfl, rfl⟩
  | yielded _ came some rest => exact Or.inl (.yielded short (.stalled tried resumed came) some rest)

theorem Collects.stalled {stopped next : γ} {reason : Stall} (short : read.length < needed)
    (tried : ByteSource.read line (needed - read.length) = (.stalled reason, stopped))
    (resumed : between reason stopped next) (collects : Collects between early needed read next answer after) :
    Collects between early needed read line answer after := by
  cases collects with
  | full gathers exact =>
      rcases gathers.stalled short tried resumed with gathers | ⟨rfl, rfl⟩
      · exact .full gathers exact
      · exact absurd exact (Nat.ne_of_lt short)
  | ended gathers missing nothing =>
      rcases gathers.stalled short tried resumed with gathers | ⟨rfl, rfl⟩
      · exact .ended gathers missing nothing
      · exact .ended .start missing (.stalled tried resumed nothing)
  | failed gathers missing failed =>
      rcases gathers.stalled short tried resumed with gathers | ⟨rfl, rfl⟩
      · exact .failed gathers missing failed
      · exact .failed .start missing (.stalled tried resumed failed)

theorem Gathers.collects (gathers : Gathers between needed read line whole mid)
    (collects : Collects between early needed whole mid answer after) :
    Collects between early needed read line answer after := by
  cases collects with
  | full behind exact => exact .full (gathers.trans behind) exact
  | ended behind short nothing => exact .ended (gathers.trans behind) short nothing
  | failed behind short failed => exact .failed (gathers.trans behind) short failed

theorem comesTo_read {found : Except IoError Bytes} (short : read.length < needed)
    (came : Obtains between (ByteSource.read · (needed - read.length)) line found mid)
    (onward : ∀ line, ByteSource.read line (needed - read.length) = (.ready found, mid) →
      ComesTo between (pollExactly early needed) read line answer after) :
    ComesTo between (pollExactly early needed) read line answer after := by
  induction came with
  | ready done => exact onward _ done
  | stalled tried resumed _ ih =>
      obtain ⟨last, tries⟩ := ih onward
      refine ⟨last, .stalled ?_ resumed tries⟩
      rw [pollExactly_read early short, tried]

theorem Gathers.comesTo (gathers : Gathers between needed read line whole mid)
    (rest : ComesTo between (pollExactly early needed) whole mid answer after) :
    ComesTo between (pollExactly early needed) read line answer after := by
  induction gathers with
  | start => exact rest
  | yielded short came some _ ih =>
      refine comesTo_read short came fun line yielded => ?_
      obtain ⟨last, tries⟩ := ih rest
      obtain ⟨byte, more, rfl⟩ := List.exists_cons_of_ne_nil some
      refine ⟨last, .of_eq ?_ tries⟩
      rw [pollExactly_read early short, yielded]

theorem Collects.comesTo (collects : Collects between early needed read line answer after) :
    ComesTo between (pollExactly early needed) read line answer after := by
  cases collects with
  | @full whole _ gathers exact =>
      refine gathers.comesTo ⟨whole, .ready ?_⟩
      rw [pollExactly, if_pos (Nat.le_of_eq exact.symm)]
  | @ended whole _ _ gathers short nothing =>
      refine gathers.comesTo (comesTo_read short nothing fun line came => ⟨whole, .ready ?_⟩)
      rw [pollExactly_read early short, came]
  | @failed whole _ _ _ gathers short failed =>
      refine gathers.comesTo (comesTo_read short failed fun line came => ⟨whole, .ready ?_⟩)
      rw [pollExactly_read early short, came]

theorem comesTo_pollExactly
    (honest : ∀ (line : γ) room bytes, (ByteSource.read line room).1 = .ready (.ok bytes) → bytes.length ≤ room)
    (bounded : read.length ≤ needed) : ComesTo between (pollExactly early needed) read line answer after ↔
      Collects between early needed read line answer after := by
  constructor
  · rintro ⟨last, tries⟩
    induction tries with
    | ready done =>
        obtain ⟨mid, gathers, halts⟩ := pollExactly_gathers between done
        cases halts with
        | full enough => exact .full gathers (Nat.le_antisymm (gathers.length_le honest bounded) enough)
        | ended short nothing => exact .ended gathers short (.ready nothing)
        | failed short failed => exact .failed gathers short (.ready failed)
    | stalled tried resumed _ ih =>
        obtain ⟨mid, gathers, halts⟩ := pollExactly_gathers between tried
        cases halts with
        | stalled short stalled =>
            exact gathers.collects ((ih (gathers.length_le honest bounded)).stalled short stalled resumed)
  · exact Collects.comesTo

theorem sequenced_pollReceive : Sequenced (pollExactly (.bare .unexpectedEof) 2) Receiving.length
    (fun size => .body size.toNatBE []) (pollReceive : Receiving → γ → _) := by
  intro read line
  unfold pollReceive
  dsimp only
  cases pollExactly (.bare .unexpectedEof) 2 read line with
  | mk tried rest =>
      match tried with
      | .stalled _ | .ready (.error _) | .ready (.ok _) => rfl

theorem comesTo_body (size : Nat) : ComesTo between pollReceive (.body size []) line answer after ↔
    ComesTo between (pollExactly (.note .unexpectedEof "early eof") size) [] line answer after := by
  have same : ∀ read (line : γ), pollReceive (.body size read) line =
      ((pollExactly (.note .unexpectedEof "early eof") size read line).1.map id,
        .body size (pollExactly (.note .unexpectedEof "early eof") size read line).2.1,
        (pollExactly (.note .unexpectedEof "early eof") size read line).2.2) := by
    intro read line
    rw [Poll.map_id]
    rfl
  rw [Timeline.comesTo_map same]
  simp

theorem receivesStream_iff
    (honest : ∀ (line : γ) room bytes, (ByteSource.read line room).1 = .ready (.ok bytes) → bytes.length ≤ room) :
    ReceivesStream between line answer after ↔ ComesTo between pollReceive (.length []) line answer after := by
  rw [sequenced_pollReceive.comesTo_iff]
  constructor
  · intro receives
    cases receives with
    | headless length => exact ⟨_, _, length.comesTo, .failed⟩
    | headed length body => exact ⟨_, _, length.comesTo, .onward ((comesTo_body _).mpr body.comesTo)⟩
  · rintro ⟨result, mid, length, behind⟩
    have length := (comesTo_pollExactly honest (Nat.zero_le _)).mp length
    cases behind with
    | failed => exact .headless length
    | onward body =>
        exact .headed length ((comesTo_pollExactly honest (Nat.zero_le _)).mp ((comesTo_body _).mp body))

end Receiving

section Datagrams

variable [Carrier γ] {carrier mid after : γ}

theorem sendsDatagram_unwrapped {query : Bytes} {error : TunnelError} {answer : Except IoError Unit}
    (wrapped : Carrier.wrap carrier query = (.error error, mid)) :
    SendsDatagram between query carrier answer after ↔ answer = .error error.toIoError ∧ after = mid := by
  constructor
  · intro sends
    cases sends with
    | unwrapped refused =>
        cases wrapped.symm.trans refused
        exact ⟨rfl, rfl⟩
    | handed made => cases wrapped.symm.trans made
  · rintro ⟨rfl, rfl⟩
    exact .unwrapped wrapped

theorem sendsDatagram_wrapped {query packet : Bytes} {answer : Except IoError Unit}
    (wrapped : Carrier.wrap carrier query = (.ok packet, mid)) :
    SendsDatagram between query carrier answer after ↔
      ComesTo between (ofCall (pollSendDatagram packet)) () mid answer after := by
  have same : ∀ carrier : γ, ofCall (pollSendDatagram packet) () carrier =
      ((Carrier.send carrier packet).1.map (·.mapError TunnelError.toIoError), (), (Carrier.send carrier packet).2) :=
    fun _ => rfl
  rw [Timeline.comesTo_call same]
  constructor
  · intro sends
    cases sends with
    | unwrapped refused => cases wrapped.symm.trans refused
    | handed made sent =>
        cases wrapped.symm.trans made
        exact ⟨_, sent, rfl⟩
  · rintro ⟨found, sent, rfl⟩
    exact .handed wrapped sent

theorem receivesDatagram_iff {answer : Except IoError Bytes} : ReceivesDatagram between carrier answer after ↔
    ComesTo between (ofCall pollReceiveDatagram) () carrier answer after := by
  have same : ∀ carrier : γ, ofCall pollReceiveDatagram () carrier =
      ((Carrier.receive carrier 4096).1.map (·.mapError TunnelError.toIoError), (), (Carrier.receive carrier 4096).2) :=
    fun _ => rfl
  rw [Timeline.comesTo_call same]
  constructor
  · intro receives
    cases receives with
    | received came => exact ⟨_, came, rfl⟩
  · rintro ⟨found, came, rfl⟩
    exact .received came

end Datagrams
end SealedTunnel.Connectivity
