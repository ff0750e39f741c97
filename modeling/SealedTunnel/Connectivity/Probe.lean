import SealedTunnel.Connectivity.Failure
import SealedTunnel.Dns.Message
import SealedTunnel.Dns.Query

/-!
The test of a resolver: connect, send a query, receive an answer, all before one deadline. What the
caller set up wrongly is an error of the test; all else is its result.
-/
namespace SealedTunnel.Connectivity

/-- A way to a resolver. Each action runs until it is finished or until the deadline; without a
result, it was not finished by then. -/
structure Route (ω : Type) where
  now : ω → Nat
  connect : (deadline : Nat) → ω → Option (Except TunnelError Unit) × ω
  send : Bytes → (deadline : Nat) → ω → Option (Except IoError Unit) × ω
  receive : (deadline : Nat) → ω → Option (Except IoError Bytes) × ω

structure Result where
  /-- From the first attempt to connect to the end, in milliseconds. -/
  duration : Nat
  failure : Option Failure
  deriving DecidableEq, Repr

def Result.isSuccess (result : Result) : Bool := result.failure.isNone

def usualLimit : Nat := 5000

/-- An answer has to be a message; which one does not matter. -/
def checkAnswer (bytes : Bytes) : Except IoError Unit :=
  match Dns.Message.parse bytes with
  | .ok _ => .ok ()
  | .error fault => .error (.note .invalidData fault.message)

def stageResult {α : Type} (stage : Stage) (limit : Duration) : Option (Except IoError α) → Except Failure α
  | none => .error (.timedOut stage limit)
  | some (.error error) => .error (.ofError stage error)
  | some (.ok value) => .ok value

variable {ω : Type}

def exchange (route : Route ω) (query : Bytes) (deadline : Nat) (limit : Duration) (world : ω) :
    Except Failure Unit × ω :=
  let (sent, world) := route.send query deadline world
  match stageResult .send limit sent with
  | .error failure => (.error failure, world)
  | .ok _ =>
    let (received, world) := route.receive deadline world
    (stageResult .receive limit (received.map (·.bind checkAnswer)), world)

def run (route : Route ω) (query : Bytes) (deadline : Nat) (limit : Duration) (world : ω) :
    Except TunnelError (Except Failure Unit) × ω :=
  match route.connect deadline world with
  | (none, world) => (.ok (.error (.timedOut .connect limit)), world)
  | (some (.error error), world) =>
    if error.isConfigError then (.error error, world)
    else (.ok (.error (.ofError .connect error.toIoError)), world)
  | (some (.ok _), world) =>
    let (result, world) := exchange route query deadline limit world
    (.ok result, world)

def probe (route : Route ω) (id : UInt16) (domain : String) (limit : Nat) (world : ω) :
    Except TunnelError Result × ω :=
  match Dns.buildQuery id domain with
  | .error fault => (.error (.fault fault), world)
  | .ok query =>
    let start := route.now world
    let (outcome, world) := run route query (start + limit) (.ofMillis limit) world
    let result := outcome.map fun
      | .ok _ => { duration := route.now world - start, failure := none : Result }
      | .error failure => { duration := route.now world - start, failure := some failure : Result }
    (result, world)

end SealedTunnel.Connectivity
