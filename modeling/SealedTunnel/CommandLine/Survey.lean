import SealedTunnel.AccessKey
import SealedTunnel.CommandLine.Help
import SealedTunnel.CommandLine.Options
import SealedTunnel.Report.Record
import SealedTunnel.Report.Upload

/-!
A run of the command line: every resolver is tested through every address of the proxy, over each
transport, and a report of each test is printed and uploaded.
-/
namespace SealedTunnel.CommandLine

open Report (CollectorError Delivery Surroundings TestRecord)

inductive Failure
  | usage (fault : UsageFault)
  | file (fault : Fault)
  | settings (fault : SettingsFault)
  | accessKey (fault : Fault)
  | unresolved (host : String) (error : IoError)
  | noAddress (host : String)
  | test (error : TunnelError)
  | output (error : CollectorError)

def withCause (message cause : String) : String :=
  let indented := cause.toList.flatMap fun c => if c = '\n' then "\n    ".toList else [c]
  message ++ "\n\nCaused by:\n    " ++ String.ofList indented

def Failure.message : Failure → String
  | usage fault => fault.message
  | file fault => fault.message
  | settings fault => fault.message
  | accessKey fault => withCause "invalid access key" fault.message
  | unresolved host error => withCause ("failed to resolve " ++ host) error.message
  | noAddress host => "no addresses for " ++ host
  | test (.network error) => withCause (TunnelError.network error).message error.message
  | test (.fault fault) => fault.message
  | output (.io error) => withCause (CollectorError.io error).message error.message
  | output error => error.message

structure Trial where
  /-- With a port, as the resolver. -/
  proxy : String
  resolver : String
  transport : Transport
  deriving DecidableEq, Repr

structure Environment (m : Type → Type) where
  readFile : (path : String) → m (Except IoError String)
  lookup : (host : String) → m (Except IoError (List IpAddress))
  now : m Time.Timestamp
  /-- Tests a resolver by a query for the domain; the limit is in milliseconds. -/
  probe : AccessKey → Trial → (domain : String) → (limit : Nat) → m (Except TunnelError Connectivity.Result)
  print : String → m Unit
  printReport : Report → Delivery m
  complain : String → m Unit
  /-- Where reports are uploaded; a destination is an address. -/
  collectors : Surroundings String m

def resolverPort : UInt16 := 53

def insertAddress (address : IpAddress) : List IpAddress → List IpAddress
  | [] => [address]
  | other :: rest =>
    if address = other then other :: rest
    else if address.before other then address :: other :: rest
    else other :: insertAddress address rest

def trials (config : Config) (port : UInt16) (addresses : List IpAddress) : List Trial :=
  addresses.flatMap fun address =>
    config.resolvers.flatMap fun resolver =>
      (config.protocols.filterMap Transport.ofName?).map fun transport =>
        ⟨joinHostPort address.text port, joinHostPort resolver resolverPort, transport⟩

variable {m : Type → Type} [Monad m]

/-- An address stands for itself. -/
def addressesOf (env : Environment m) (host : String) : ExceptT Failure m (List IpAddress) := do
  match IpAddress.parse? host with
  | some address => return [address]
  | none =>
    match ← env.lookup host with
    | .error error => throw (.unresolved host error)
    | .ok [] => throw (.noAddress host)
    | .ok addresses => return addresses.foldr insertAddress []

def upload (env : Environment m) (settings : Option UploadSettings) (report : Report) : m (Except CollectorError Unit) :=
  match settings with
  | none => return .ok ()
  | some settings => (Report.collectorOf settings).collect env.collectors report

/-- Tests and reports. Failing to upload a report does not matter. -/
def runTrial (env : Environment m) (config : Config) (key : AccessKey) (trial : Trial) : ExceptT Failure m Bool := do
  let started ← env.now
  match ← env.probe key trial config.domain config.timeout.toNat with
  | .error error => throw (.test error)
  | .ok result =>
    let record := TestRecord.ofTest trial.proxy trial.resolver trial.transport.name (leadText key.lead) started
      (.ofMillis result.duration) result.failure
    if let .error error ← env.printReport record.toReport then throw (.output error)
    let _ ← (upload env config.upload record.toReport : m _)
    return result.isSuccess

/-- Whether any test succeeded. -/
def runTrials (env : Environment m) (config : Config) (key : AccessKey) : List Trial → ExceptT Failure m Bool
  | [] => return false
  | trial :: rest => do
    let isSuccess ← runTrial env config key trial
    return (← runTrials env config key rest) || isSuccess

def readSettings (env : Environment m) (options : Options) : ExceptT Failure m Config := do
  match options.settings with
  | none => return options.applyTo {}
  | some path =>
    match Config.ofFile path (← env.readFile path) with
    | .error fault => throw (.file fault)
    | .ok config => return options.applyTo config

def survey (env : Environment m) (options : Options) : ExceptT Failure m Bool := do
  let config ← readSettings env options
  if let .error fault := config.validate then throw (.settings fault)
  match AccessKey.parse config.accessKey with
  | .error fault => throw (.accessKey fault)
  | .ok key => runTrials env config key (trials config key.port (← addressesOf env key.host))

def perform (env : Environment m) (arguments : List String) : ExceptT Failure m Bool := do
  match Request.parse arguments with
  | .error fault => throw (.usage fault)
  | .ok .help =>
    env.print helpText
    return true
  | .ok (.test options) => survey env options

def run (env : Environment m) (arguments : List String) : m Nat := do
  match ← (perform env arguments).run with
  | .ok isSuccess => return if isSuccess then 0 else 1
  | .error failure =>
    env.complain ("Error: " ++ failure.message ++ "\n")
    return 1

end SealedTunnel.CommandLine
