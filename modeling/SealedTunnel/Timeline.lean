import SealedTunnel.Poll
import SealedTunnel.Stream.Lock

/-!
Running an operation against a clock. The clock stands still while anything can go on, and then jumps
to the next time that somebody waits for. Work in the background goes on only while the operation waits.
-/
namespace SealedTunnel

/-- A state with a clock, and with work of its own in the background. -/
class Timeline (γ : Type) where
  now : γ → Nat
  setClock : γ → Nat → γ
  /-- A step of the background work, unless it rests. -/
  background : γ → Option γ
  /-- When the background work is to be woken. -/
  alarm : γ → Option Nat
  granted : γ → Ticket → Bool

def Stall.isOver (now : Nat) (granted : Ticket → Bool) : Stall → Bool
  | yielded => true
  | clock due => due ≤ now
  | peer => false
  | turn ticket => granted ticket

def Stall.alarm : Stall → Option Nat
  | clock due => some due
  | _ => none

def earliest (time : Nat) (alarms : List (Option Nat)) : Nat :=
  alarms.foldl (fun earliest alarm => min earliest (alarm.getD earliest)) time

namespace Timeline

variable {μ γ α : Type} [Timeline γ]

/-- An operation under way: what it waits for, unless it is to be tried, its state, and the one around it. -/
structure Pursuit (μ γ : Type) where
  waiting : Option Stall
  state : μ
  line : γ

/-- An operation up to the deadline; at the deadline it is tried once more. Nothing, if it never has to wait and is
never finished. -/
def Pursuit.drive (poll : μ → γ → Poll α × μ × γ) (deadline : Nat) (pursuit : Pursuit μ γ) :
    Option (Option α × μ × γ) :=
  match pursuit with
  | ⟨none, state, line⟩ =>
    match poll state line with
    | (.ready value, state, line) => some (some value, state, line)
    | (.stalled reason, state, line) =>
      if deadline ≤ now line then some (none, state, line)
      else Pursuit.mk (some reason) state line |>.drive poll deadline
  | ⟨some reason, state, line⟩ =>
    match background line with
    | some line => Pursuit.mk (some reason) state line |>.drive poll deadline
    | none =>
      if reason.isOver (now line) (granted line) then Pursuit.mk none state line |>.drive poll deadline
      else
        let next := earliest deadline [reason.alarm, alarm line]
        Pursuit.mk (if next = deadline then none else some reason) state (setClock line next) |>.drive poll deadline
partial_fixpoint

def drive (poll : μ → γ → Poll α × μ × γ) (deadline : Nat) (state : μ) (line : γ) : Option α × μ × γ :=
  (Pursuit.drive poll deadline ⟨none, state, line⟩).getD (none, state, setClock line deadline)

def driveCall (call : γ → Poll α × γ) (deadline : Nat) (line : γ) : Option α × γ :=
  let (result, _, line) := drive (fun (_ : Unit) line => let (result, line) := call line; (result, (), line)) deadline () line
  (result, line)

def sleepUntil (due : Nat) (line : γ) : γ :=
  (driveCall (fun line => (if due ≤ now line then .ready () else .stalled (.clock due), line)) due line).2

end Timeline
end SealedTunnel
