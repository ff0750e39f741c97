/-!
A fair lock: whoever asks first gets it first, a holder that leaves hands it on, and one that waits
may give up its place.
-/
namespace SealedTunnel

/-- The place of one request in the order in which requests came. -/
abbrev Ticket := Nat

structure Lock where
  holder : Option Ticket
  queue : List Ticket
  next : Ticket
  deriving DecidableEq, Repr

namespace Lock

def free : Lock := ⟨none, [], 0⟩

def request (lock : Lock) : Ticket × Lock :=
  match lock.holder with
  | none => (lock.next, { lock with holder := some lock.next, next := lock.next + 1 })
  | some _ => (lock.next, { lock with queue := lock.queue ++ [lock.next], next := lock.next + 1 })

def release (lock : Lock) : Lock := { lock with holder := lock.queue.head?, queue := lock.queue.tail }

def leave (lock : Lock) (ticket : Ticket) : Lock :=
  if lock.holder = some ticket then lock.release
  else { lock with queue := lock.queue.filter (· ≠ ticket) }

end Lock
end SealedTunnel
