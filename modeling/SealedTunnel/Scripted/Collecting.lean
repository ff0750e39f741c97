import SealedTunnel.Report.Collector
import SealedTunnel.Report.LineWriter
import SealedTunnel.Scripted.Sink

/-! Rehearsals of collecting: destinations that fail as a script lays down, and a clock that only sleep moves. -/
namespace SealedTunnel.Scripted

open Decimal (Binary64)
open Report (Collector CollectorError Surroundings)

inductive DeliveryOutcome
  | result (outcome : Except CollectorError Unit)
  /-- Fails where the report has no document. -/
  | serialized

structure ScriptedDelivery where
  /-- How long it takes, in milliseconds. -/
  wait : Nat
  outcome : DeliveryOutcome

inductive Destination
  /-- The last delivery of the script is repeated; without any, all goes well. -/
  | rehearsed (id : String) (script : List ScriptedDelivery)
  | lines (id : String) (sink : Sink)

structure Rehearsal where
  now : Nat
  destinations : List Destination
  /-- Who was called and when, the latest first. -/
  calls : List (String × Nat)
  /-- How many numbers have been drawn. -/
  draws : Nat

namespace Rehearsal

def ofDestinations (destinations : List Destination) : Rehearsal := ⟨0, destinations, [], 0⟩

def outcomeFor (report : Report) : DeliveryOutcome → Except CollectorError Unit
  | .result outcome => outcome
  | .serialized => (report.document.mapError .serialize).map fun _ => ()

def deliver (rehearsal : Rehearsal) (number : Nat) (report : Report) : Except CollectorError Unit × Rehearsal :=
  match rehearsal.destinations[number]? with
  | none => (.ok (), rehearsal)
  | some (.lines id sink) =>
    let (result, sink) := Report.writeLine report sink
    (result, { rehearsal with destinations := rehearsal.destinations.set number (.lines id sink) })
  | some (.rehearsed id script) =>
    let called := { rehearsal with calls := (id, rehearsal.now) :: rehearsal.calls }
    match script with
    | [] => (.ok (), called)
    | [last] => (outcomeFor report last.outcome, { called with now := called.now + last.wait })
    | next :: rest =>
      (outcomeFor report next.outcome, { called with
        now := called.now + next.wait
        destinations := called.destinations.set number (.rehearsed id rest) })

/-- Sleeping ends with a whole millisecond. -/
def sleep (rehearsal : Rehearsal) (span : Duration) : Rehearsal := { rehearsal with now := rehearsal.now + (span.nanos + 999999) / 1000000 }

def goldenStep : Nat := 0x9e3779b97f4a7c15

/-- The number drawn after so many others: a golden ratio behind the last one, round the unit interval. -/
def chance (draws : Nat) : Binary64 := .ofRatio false (draws * goldenStep % Nat.pow 2 64 / Nat.pow 2 11) (Nat.pow 2 53)

def surroundings : Surroundings Nat (StateM Rehearsal) where
  deliver number report rehearsal := rehearsal.deliver number report
  sleep span rehearsal := ((), rehearsal.sleep span)
  draw rehearsal := (chance rehearsal.draws, { rehearsal with draws := rehearsal.draws + 1 })

def written (rehearsal : Rehearsal) : List (String × Bytes) :=
  rehearsal.destinations.filterMap fun
    | .lines id sink => some (id, sink.wire)
    | _ => none

end Rehearsal

structure Collected where
  result : Except CollectorError Unit
  /-- The calls for that report, the first of them first. -/
  calls : List (String × Nat)
  elapsed : Nat

def collectAll (collector : Collector Nat) : List Report → Rehearsal → List Collected × Rehearsal
  | [], rehearsal => ([], rehearsal)
  | report :: rest, rehearsal =>
    let (result, after) := (collector.collect Rehearsal.surroundings report).run { rehearsal with calls := [] }
    let (others, last) := collectAll collector rest after
    (⟨result, after.calls.reverse, after.now - rehearsal.now⟩ :: others, last)

end SealedTunnel.Scripted
