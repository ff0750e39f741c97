import SealedTunnel.CommandLine.Survey
import SealedTunnel.Scripted.Probing

/-!
A test as a function of what happens: how connecting to the proxy goes, and what comes back. Whoever moves
the bytes can ask again whenever more has happened, until the outcome is settled.
-/
namespace SealedTunnel.Scripted

open CommandLine (Trial)
open Connectivity (Journey Result)

/-- What happened so far. The arrivals may be pieces of a stream, of which nothing is the end, or datagrams. -/
structure Account where
  opening : Attempt
  arrivals : List Arrival

def Arrival.items (arrival : Arrival) : List SourceItem :=
  match arrival.content with
  | .data bytes => [.wait arrival.wait, .data bytes]
  | .nothing => [.wait arrival.wait, .ended]
  | .failed error => [.wait arrival.wait, .fail error.toIoError]
  | .hanging => []

namespace Account

def line (account : Account) : Line :=
  ⟨.ofItems (account.arrivals.flatMap Arrival.items) true, .ofScript [] [] [] none⟩

def mailbox (account : Account) : Mailbox := .ofScript (account.arrivals ++ [⟨0, .hanging⟩]) []

end Account

structure Course where
  result : Except TunnelError Result
  /-- Whether a connection was asked for. -/
  isConnecting : Bool
  /-- What goes out: the bytes of a stream, or datagrams, the first of them first. -/
  sent : List Bytes

namespace Course

/-- Whether nothing that happens from now on matters; `elapsed` and `limit` are in milliseconds. -/
def isSettled (course : Course) (elapsed limit : Nat) : Bool :=
  !course.isConnecting || decide (limit ≤ elapsed) ||
    match course.result with
    | .error _ => true
    | .ok result => result.failure.all fun failure => failure.error ≠ .ofFault (.timeout (.ofMillis limit))

def ofJourney {ι γ : Type} (sent : γ → List Bytes) (outcome : Except TunnelError Result × Journey (Site ι) γ) : Course :=
  ⟨outcome.1, outcome.2.site.connects > 0, (outcome.2.connection.map sent).getD []⟩

/-- The course of a test through the proxy of a key. Only streams begin with the lead of the key. -/
def ofAccount (key : AccessKey) (entropy : Entropy) (id : UInt16) (trial : Trial) (domain : String) (limit : Nat)
    (account : Account) : Course :=
  match trial.transport with
  | .tcp =>
    let salts := (key.saltSource? entropy).getD (.random entropy)
    let route := Connectivity.streamRoute (Site.throughDialer ⟨key.key, salts, Dialer.usualWait⟩ trial.resolver)
    ofJourney (fun session => [session.sink.wire])
      (Connectivity.probe route id domain limit (.ofSite (.ofScript account.opening account.line)))
  | .udp =>
    let route := Connectivity.datagramRoute (Site.throughTunnel key.key (.random entropy) trial.resolver)
    ofJourney (fun bound => bound.tunnel.proxy.sent.reverse)
      (Connectivity.probe route id domain limit (.ofSite (.ofScript account.opening account.mailbox)))

end Course
end SealedTunnel.Scripted
