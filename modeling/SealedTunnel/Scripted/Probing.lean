import SealedTunnel.Connectivity.Route
import SealedTunnel.Scripted.Attempt
import SealedTunnel.Scripted.Line
import SealedTunnel.Scripted.Mailbox

namespace SealedTunnel.Scripted

open Connectivity (Access Journey)

structure Site (γ : Type) where
  opening : Attempt
  now : Nat
  /-- How often a connection was asked for. -/
  connects : Nat
  /-- What is there once it is connected. -/
  far : γ

namespace Site

variable {γ δ : Type}

def ofScript (opening : Attempt) (far : γ) : Site γ := ⟨opening, 0, 0, far⟩

/-- Connects, and makes of the far end what `enter` says. -/
def connect [Timeline γ] (enter : γ → δ) (deadline : Nat) (site : Site γ) :
    Option (Except TunnelError δ) × Site γ :=
  let (result, now) := site.opening.runUntil site.now deadline
  (result.map (·.map fun _ => enter (Timeline.setClock site.far now)), { site with now, connects := site.connects + 1 })

def direct [Timeline γ] : Access (Site γ) γ := ⟨now, connect id⟩

def throughDialer (dialer : Dialer) (address : String) : Access (Site Line) Session where
  now := now
  connect deadline site :=
    match Dialer.header address with
    | .error fault => (some (.error (.fault fault)), site)
    | .ok header =>
      site.connect (fun line => ⟨dialer.establish header line.source line.sink (Timeline.now line), none⟩) deadline

def throughTunnel (key : MasterKey) (salts : SaltSource) (address : String) : Access (Site Mailbox) (Bound Mailbox) where
  now := now
  connect deadline site :=
    match Target.parse address with
    | .error fault => (some (.error (.fault fault)), site)
    | .ok remote => site.connect (fun mailbox => ⟨⟨key, salts, mailbox⟩, remote⟩) deadline

end Site
end SealedTunnel.Scripted
