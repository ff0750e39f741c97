import SealedTunnel.Connectivity.Framing
import SealedTunnel.Connectivity.Probe
import SealedTunnel.Timeline

namespace SealedTunnel.Connectivity

structure Access (ι γ : Type) where
  now : ι → Nat
  connect : (deadline : Nat) → ι → Option (Except TunnelError γ) × ι

/-- A connection that may still have to be made. -/
structure Journey (ι γ : Type) where
  site : ι
  connection : Option γ

namespace Journey

variable {ι γ : Type} [Timeline γ]

def ofSite (site : ι) : Journey ι γ := ⟨site, none⟩

def clock (access : Access ι γ) (journey : Journey ι γ) : Nat :=
  match journey.connection with
  | some connection => Timeline.now connection
  | none => access.now journey.site

def act {α : Type} (journey : Journey ι γ) (action : γ → Option (Except IoError α) × γ) :
    Option (Except IoError α) × Journey ι γ :=
  match journey.connection with
  | none => (some (.error (.bare .notConnected)), journey)
  | some connection =>
    let (result, connection) := action connection
    (result, { journey with connection := some connection })

def connect (access : Access ι γ) (deadline : Nat) (journey : Journey ι γ) :
    Option (Except TunnelError Unit) × Journey ι γ :=
  match access.connect deadline journey.site with
  | (none, site) => (none, { journey with site })
  | (some (.error error), site) => (some (.error error), { journey with site })
  | (some (.ok connection), site) => (some (.ok ()), ⟨site, some connection⟩)

end Journey

open Journey in
def streamRoute {ι γ : Type} [Timeline γ] [ByteSink γ] [ByteSource γ] (access : Access ι γ) :
    Route (Journey ι γ) where
  now := clock access
  connect := connect access
  send query deadline journey :=
    journey.act fun line =>
      match frame query with
      | .error error => (some (.error error), line)
      | .ok framed =>
        let (result, _, line) := Timeline.drive pollSend deadline (.writing framed) line
        (result, line)
  receive deadline journey :=
    journey.act fun line =>
      let (result, _, line) := Timeline.drive pollReceive deadline (.length []) line
      (result, line)

open Journey in
def datagramRoute {ι κ : Type} [Timeline κ] [Carrier κ] (access : Access ι κ) :
    Route (Journey ι κ) where
  now := clock access
  connect := connect access
  send query deadline journey :=
    journey.act fun carrier =>
      match Carrier.wrap carrier query with
      | (.error error, carrier) => (some (.error error.toIoError), carrier)
      | (.ok packet, carrier) => Timeline.driveCall (pollSendDatagram packet) deadline carrier
  receive deadline journey := journey.act (Timeline.driveCall pollReceiveDatagram deadline)

end SealedTunnel.Connectivity
