import SealedTunnel.Poll

/-! A sink that takes what a script lays down and records what it took, for rehearsing a connection. -/
namespace SealedTunnel.Scripted

inductive WriteOutcome
  /-- Takes at most so many bytes. -/
  | accept (count : Nat)
  | yield
  | wait (millis : Nat)
  | fail (error : IoError)
  deriving DecidableEq, Repr

inductive CallOutcome
  | ok
  | yield
  | fail (error : IoError)
  deriving DecidableEq, Repr

structure Sink where
  writes : List WriteOutcome
  flushes : List CallOutcome
  shutdowns : List CallOutcome
  /-- How many bytes it still takes, if that is limited. -/
  room : Option Nat
  now : Nat
  /-- When the wait at the front is over. -/
  due : Option Nat
  /-- What it took, the latest first. -/
  taken : List Bytes
  /-- Successful flushes. -/
  flushed : Nat
  isShut : Bool
  deriving DecidableEq, Repr

namespace Sink

def ofScript (writes : List WriteOutcome) (flushes shutdowns : List CallOutcome) (room : Option Nat) : Sink :=
  ⟨writes, flushes, shutdowns, room, 0, none, [], 0, false⟩

def wire (sink : Sink) : Bytes := sink.taken.reverse.flatten

def setClock (sink : Sink) (now : Nat) : Sink := { sink with now }

/-- Room for more bytes, counted from none where it was not limited. -/
def addRoom (sink : Sink) (count : Nat) : Sink := { sink with room := some (sink.room.getD 0 + count) }

def unlimited (sink : Sink) : Sink := { sink with room := none }

def extend (sink : Sink) (writes : List WriteOutcome) (flushes shutdowns : List CallOutcome) : Sink :=
  { sink with
    writes := sink.writes ++ writes
    flushes := sink.flushes ++ flushes
    shutdowns := sink.shutdowns ++ shutdowns }

def dueTime (sink : Sink) (millis : Nat) : Nat := sink.due.getD (sink.now + millis)

def take (sink : Sink) (bytes : Bytes) (limit : Nat) : Poll (Except IoError Nat) × Sink :=
  let count := min limit bytes.length
  match sink.room with
  | none => (.ready (.ok count), { sink with taken := bytes.take count :: sink.taken })
  | some 0 => (.stalled .peer, sink)
  | some room =>
    let count := min count room
    (.ready (.ok count), { sink with taken := bytes.take count :: sink.taken, room := some (room - count) })

def writeNext (sink : Sink) (bytes : Bytes) : List WriteOutcome → Poll (Except IoError Nat) × Sink
  | [] => { sink with writes := [] }.take bytes bytes.length
  | .accept count :: rest => { sink with writes := rest }.take bytes count
  | .yield :: rest => (.stalled .yielded, { sink with writes := rest })
  | .fail error :: rest => (.ready (.error error), { sink with writes := rest })
  | .wait millis :: rest =>
    let due := sink.dueTime millis
    if due ≤ sink.now then writeNext { sink with due := none } bytes rest
    else (.stalled (.clock due), { sink with writes := .wait millis :: rest, due := some due })

def write (sink : Sink) (bytes : Bytes) : Poll (Except IoError Nat) × Sink := writeNext sink bytes sink.writes

def flush (sink : Sink) : Poll (Except IoError Unit) × Sink :=
  match sink.flushes with
  | [] => (.ready (.ok ()), { sink with flushed := sink.flushed + 1 })
  | .ok :: rest => (.ready (.ok ()), { sink with flushes := rest, flushed := sink.flushed + 1 })
  | .yield :: rest => (.stalled .yielded, { sink with flushes := rest })
  | .fail error :: rest => (.ready (.error error), { sink with flushes := rest })

def shutdown (sink : Sink) : Poll (Except IoError Unit) × Sink :=
  match sink.shutdowns with
  | [] => (.ready (.ok ()), { sink with isShut := true })
  | .ok :: rest => (.ready (.ok ()), { sink with shutdowns := rest, isShut := true })
  | .yield :: rest => (.stalled .yielded, { sink with shutdowns := rest })
  | .fail error :: rest => (.ready (.error error), { sink with shutdowns := rest })

theorem take_le {sink : Sink} {bytes : Bytes} {limit count : Nat}
    (done : (sink.take bytes limit).1 = .ready (.ok count)) : count ≤ bytes.length := by
  unfold take at done
  dsimp only at done
  split at done
  · simp only [Poll.ready.injEq, Except.ok.injEq] at done
    omega
  · simp at done
  · simp only [Poll.ready.injEq, Except.ok.injEq] at done
    omega

theorem writeNext_le {sink : Sink} {bytes : Bytes} {outcomes : List WriteOutcome} {count : Nat}
    (done : (writeNext sink bytes outcomes).1 = .ready (.ok count)) : count ≤ bytes.length := by
  fun_induction writeNext sink bytes outcomes with
  | case1 => exact take_le done
  | case2 => exact take_le done
  | case3 => simp at done
  | case4 => simp at done
  | case5 sink millis rest due passed ih => exact ih done
  | case6 => simp at done

theorem take_ne_error (sink : Sink) (bytes : Bytes) (limit : Nat) (error : IoError) :
    (sink.take bytes limit).1 ≠ .ready (.error error) := by
  unfold take
  dsimp only
  split <;> simp

theorem writeNext_error {sink : Sink} {bytes : Bytes} {outcomes : List WriteOutcome} {error : IoError}
    (failed : (writeNext sink bytes outcomes).1 = .ready (.error error)) :
    (writeNext sink bytes outcomes).2.writes.length < outcomes.length := by
  fun_induction writeNext sink bytes outcomes with
  | case1 => exact absurd failed (take_ne_error _ _ _ _)
  | case2 => exact absurd failed (take_ne_error _ _ _ _)
  | case3 => simp at failed
  | case4 => simp
  | case5 sink millis rest due passed ih =>
    have fewer := ih failed
    simp only [List.length_cons]
    omega
  | case6 => simp at failed

instance : ByteSink Sink where
  write := write
  flush := flush
  shutdown := shutdown
  interruptions sink := sink.writes.length
  write_le _ _ _ done := writeNext_le done
  interruptions_write _ _ _ failed _ := writeNext_error failed

end Sink
end SealedTunnel.Scripted
