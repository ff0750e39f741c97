import SealedTunnel.Stream.Drain

namespace SealedTunnel

/-- A sink, and every byte that it has accepted. -/
structure Recorded (σ : Type) where
  sink : σ
  wire : Bytes

namespace Recorded

variable {σ : Type} [ByteSink σ]

def accepted (bytes : Bytes) : Poll (Except IoError Nat) → Bytes
  | .ready (.ok count) => bytes.take count
  | .ready (.error _) => []
  | .stalled _ => []

def write (recorded : Recorded σ) (bytes : Bytes) : Poll (Except IoError Nat) × Recorded σ :=
  let (answer, sink) := ByteSink.write recorded.sink bytes
  (answer, ⟨sink, recorded.wire ++ accepted bytes answer⟩)

def flush (recorded : Recorded σ) : Poll (Except IoError Unit) × Recorded σ :=
  let (answer, sink) := ByteSink.flush recorded.sink
  (answer, ⟨sink, recorded.wire⟩)

def shutdown (recorded : Recorded σ) : Poll (Except IoError Unit) × Recorded σ :=
  let (answer, sink) := ByteSink.shutdown recorded.sink
  (answer, ⟨sink, recorded.wire⟩)

instance : ByteSink (Recorded σ) where
  write := write
  flush := flush
  shutdown := shutdown
  interruptions recorded := ByteSink.interruptions recorded.sink
  write_le recorded bytes count done := ByteSink.write_le recorded.sink bytes count done
  interruptions_write recorded bytes error failed kind :=
    ByteSink.interruptions_write recorded.sink bytes error failed kind

theorem write_eq {recorded : Recorded σ} {bytes : Bytes} {answer : Poll (Except IoError Nat)} {next : σ}
    (done : ByteSink.write recorded.sink bytes = (answer, next)) :
    ByteSink.write recorded bytes = (answer, ⟨next, recorded.wire ++ accepted bytes answer⟩) := by
  change write recorded bytes = _
  rw [write, done]

theorem wire_write {recorded next : Recorded σ} {bytes : Bytes} {answer : Poll (Except IoError Nat)}
    (done : ByteSink.write recorded bytes = (answer, next)) : next.wire = recorded.wire ++ accepted bytes answer := by
  obtain ⟨rfl, rfl⟩ := Prod.mk.inj done
  rfl

theorem wire_flush {recorded next : Recorded σ} {answer : Poll (Except IoError Unit)}
    (done : ByteSink.flush recorded = (answer, next)) : next.wire = recorded.wire := by
  obtain ⟨rfl, rfl⟩ := Prod.mk.inj done
  rfl

theorem wire_shutdown {recorded next : Recorded σ} {answer : Poll (Except IoError Unit)}
    (done : ByteSink.shutdown recorded = (answer, next)) : next.wire = recorded.wire := by
  obtain ⟨rfl, rfl⟩ := Prod.mk.inj done
  rfl

end Recorded

variable {σ : Type} [ByteSink σ]

theorem drain_moves (stuck : IoError) (recorded : Recorded σ) (bytes : Bytes) :
    ∃ moved, (drain stuck recorded bytes).2.2.wire = recorded.wire ++ moved ∧
      bytes = moved ++ (drain stuck recorded bytes).2.1 := by
  fun_induction drain stuck recorded bytes with
  | case1 recorded bytes none =>
      refine ⟨[], (List.append_nil _).symm, ?_⟩
      rw [List.eq_nil_of_length_eq_zero none, List.append_nil]
  | case2 recorded bytes some reason next written | case4 recorded bytes some error next written final =>
      have wire := Recorded.wire_write written
      rw [Recorded.accepted] at wire
      exact ⟨[], wire, rfl⟩
  | case3 recorded bytes some error next written interrupted ih =>
      have wire := Recorded.wire_write written
      rw [Recorded.accepted, List.append_nil] at wire
      rwa [wire] at ih
  | case5 recorded bytes some next written =>
      have wire := Recorded.wire_write written
      rw [Recorded.accepted, List.take_zero] at wire
      exact ⟨[], wire, rfl⟩
  | case6 recorded bytes some count next written ih =>
      obtain ⟨moved, wire, split⟩ := ih
      refine ⟨bytes.take (count + 1) ++ moved, ?_, ?_⟩
      · rw [wire, Recorded.wire_write written, Recorded.accepted, List.append_assoc]
      · rw [List.append_assoc, ← split, List.take_append_drop]

theorem rest_drain {stuck : IoError} {recorded after : Recorded σ} {bytes rest : Bytes}
    (done : drain stuck recorded bytes = (.ready (.ok ()), rest, after)) : rest = [] := by
  fun_induction drain stuck recorded bytes with
  | case1 recorded bytes none =>
      cases done
      rfl
  | case2 | case4 | case5 => cases done
  | case3 recorded bytes some error next written interrupted ih => exact ih done
  | case6 recorded bytes some count next written ih => exact ih done

end SealedTunnel
