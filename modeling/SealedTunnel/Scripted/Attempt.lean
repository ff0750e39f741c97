import SealedTunnel.Error

namespace SealedTunnel.Scripted

inductive AttemptEnd
  | done
  | hanging
  | failed (error : TunnelError)
  deriving DecidableEq, Repr

structure Attempt where
  /-- How long it takes, in milliseconds. -/
  wait : Nat
  ending : AttemptEnd
  deriving DecidableEq, Repr

def Attempt.runUntil (attempt : Attempt) (start deadline : Nat) : Option (Except TunnelError Unit) × Nat :=
  if deadline < start + attempt.wait then (none, deadline)
  else
    match attempt.ending with
    | .done => (some (.ok ()), start + attempt.wait)
    | .hanging => (none, deadline)
    | .failed error => (some (.error error), start + attempt.wait)

/-- What an attempt comes to without a deadline; nothing, if it hangs. -/
def Attempt.result? (attempt : Attempt) : Option (Except TunnelError Unit) :=
  (attempt.runUntil 0 attempt.wait).1

end SealedTunnel.Scripted
