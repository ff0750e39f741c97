import SealedTunnel.Report.Exchange
import SealedTunnel.Scripted.Account
import Std.Async.DNS
import Std.Async.TCP
import Std.Async.UDP
import Std.Time.DateTime.Timestamp

/-! The machine that the command line runs on: its network, files, clock and chance. -/
namespace SealedTunnel.Machine

open CommandLine (Environment Trial)
open Decimal (Binary64)
open Report (CollectorError Upload)
open Scripted (Account Arrival Attempt Course)
open Std.Async (AsyncTask TCP.Socket.Client UDP.Socket DNS.getAddrInfo)
open Std.Net (SocketAddress IPAddr)

/-- The code of the operating system; the network reports it as a negative number. -/
def errorCode? (error : IO.Error) : Option Nat :=
  let code : Option UInt32 := match error with
    | .alreadyExists _ code _ | .otherError code _ | .resourceBusy code _ | .resourceVanished code _
    | .unsupportedOperation code _ | .hardwareFault code _ | .unsatisfiedConstraints code _ | .illegalOperation code _
    | .protocolError code _ | .timeExpired code _ | .interrupted _ code _ | .noFileOrDirectory _ code _
    | .invalidArgument _ code _ | .permissionDenied _ code _ | .resourceExhausted _ code _ | .inappropriateType _ code _
    | .noSuchThing _ code _ => some code
    | .unexpectedEof | .userError _ => none
  code.map fun code => if code.toNat < 0x80000000 then code.toNat else UInt32.size - code.toNat

def ioError (error : IO.Error) : IoError :=
  match errorCode? error with
  | some code => .os code
  | none => .note .other (toString error)

/-- What a task comes to, if it is finished by the deadline. -/
partial def await {α : Type} (deadline : Nat) (task : AsyncTask α) : IO (Option (Except IO.Error α)) := do
  if ← IO.hasFinished task then return some (← IO.wait task)
  if deadline ≤ (← IO.monoMsNow) then return none
  IO.sleep 1
  await deadline task

def socketAddress : IpAddress → UInt16 → SocketAddress
  | .v4 ip, port => .v4 ⟨.ofParts ip.a ip.b ip.c ip.d, port⟩
  | .v6 ip, port =>
    let group (index : Nat) : UInt16 := ip.groups.getD index 0
    .v6 ⟨.ofParts (group 0) (group 1) (group 2) (group 3) (group 4) (group 5) (group 6) (group 7), port⟩

def ipAddress : IPAddr → IpAddress
  | .v4 address => .v4 (.ofNat (Bytes.toNatBE address.octets.toList))
  | .v6 address => .v6 (.ofParts address.segments.toList [])

structure Wire where
  send : Bytes → IO Unit
  /-- Nothing, at the end of a stream. -/
  receive : IO (AsyncTask (Option ByteArray))

def packed (bytes : Bytes) : ByteArray := ⟨bytes.toArray⟩

def receiveSize : UInt64 := 65536

def connectStream (address : SocketAddress) (deadline : Nat) : IO (Option Wire) := do
  let socket ← TCP.Socket.Client.mk
  match ← await deadline (← (socket.connect address).toIO) with
  | none => return none
  | some (.error error) => throw error
  | some (.ok ()) =>
    return some ⟨fun bytes => (socket.send (packed bytes)).block, (socket.recv? receiveSize).toIO⟩

def connectDatagrams (address : SocketAddress) : IO Wire := do
  let socket ← UDP.Socket.mk
  socket.connect address
  let receive : Std.Async.Async (Option ByteArray) := do return some (← socket.recv receiveSize).1
  return ⟨fun bytes => (socket.send (packed bytes)).block, receive.toIO⟩

def connect (transport : Transport) (address : SocketAddress) (deadline : Nat) : IO (Option Wire) :=
  match transport with
  | .tcp => connectStream address deadline
  | .udp => some <$> connectDatagrams address

def arrival (wire : Wire) (since deadline : Nat) : IO (Option Arrival) := do
  let received ← await deadline (← wire.receive)
  let wait := (← IO.monoMsNow) - since
  return received.map fun
    | .ok (some data) => ⟨wait, .data data.toList⟩
    | .ok none => ⟨wait, .nothing⟩
    | .error error => ⟨wait, .failed (.network (ioError error))⟩

/-- Lets things happen until they settle the outcome of a test. -/
partial def settle (course : List Arrival → Course) (wire : Wire) (begun last limit : Nat) (arrivals : List Arrival) :
    IO Course := do
  let reached := course arrivals
  let now ← IO.monoMsNow
  if reached.isSettled (now - begun) limit then return reached
  match ← arrival wire last (begun + limit) with
  | none => return reached
  | some next => settle course wire begun (last + next.wait) limit (arrivals ++ [next])

def randomBytes (count : Nat) : IO Bytes := return (← IO.getRandomBytes (.ofNat count)).toList

/-- Bytes that were drawn beforehand; a test needs no more than a few salts. -/
def drawEntropy : IO Entropy := do
  let bytes ← randomBytes 1024
  return fun attempt index => bytes.getD ((attempt * 64 + index) % 1024) 0

def draw : IO Binary64 := return .ofRatio false ((← randomBytes 8).toNatBE / 0x800) 0x20000000000000

/-- The address of a proxy; it is always written with numbers. -/
def proxyAddress? (proxy : String) : Option SocketAddress :=
  match Target.parse proxy with
  | .ok (.ipv4 ip port) => some (socketAddress (.v4 ip) port)
  | .ok (.ipv6 ip port _ _) => some (socketAddress (.v6 ip) port)
  | _ => none

def follow (course : Account → Course) (transport : Transport) (address : SocketAddress) (limit : Nat) : IO Course := do
  let begun ← IO.monoMsNow
  try
    let wire ← connect transport address (begun + limit)
    let connected ← IO.monoMsNow
    match wire with
    | none => return course ⟨⟨limit, .hanging⟩, []⟩
    | some wire =>
      let opening : Attempt := ⟨connected - begun, .done⟩
      (course ⟨opening, []⟩).sent.forM wire.send
      settle (fun arrivals => course ⟨opening, arrivals⟩) wire begun connected limit []
  catch error =>
    return course ⟨⟨(← IO.monoMsNow) - begun, .failed (.network (ioError error))⟩, []⟩

def probe (key : AccessKey) (trial : Trial) (domain : String) (limit : Nat) :
    IO (Except TunnelError Connectivity.Result) := do
  let entropy ← drawEntropy
  let id := UInt16.ofNat (← randomBytes 2).toNatBE
  let course := Course.ofAccount key entropy id trial domain limit
  let idle := course ⟨⟨limit, .hanging⟩, []⟩
  match idle.isConnecting, proxyAddress? trial.proxy with
  | true, some address => return (← follow course trial.transport address limit).result
  | _, _ => return idle.result

def readFile (path : String) : IO (Except IoError String) := do
  try return .ok (← IO.FS.readFile path)
  catch error =>
    return .error <| match errorCode? error with
      | some code => .os code
      | none => .note .invalidData "stream did not contain valid UTF-8"

def lookupReason (code : Nat) : String :=
  if code = 3001 then "Temporary failure in name resolution"
  else if code = 3004 then "Non-recoverable failure in name resolution"
  else if code = 3007 then "No address associated with hostname"
  else "Name or service not known"

def lookup (host : String) : IO (Except IoError (List IpAddress)) := do
  try return .ok ((← (DNS.getAddrInfo host "").block).toList.map ipAddress)
  catch error =>
    let reason := lookupReason ((errorCode? error).getD 0)
    return .error (.note .uncategorized ("failed to lookup address information: " ++ reason))

def uploadLimit : Nat := 30000

partial def awaitStatus (wire : Wire) (deadline : Nat) (answer : Bytes) : IO (Except String Nat) := do
  match Report.statusOf? answer with
  | some status => return .ok status
  | none =>
    match ← await deadline (← wire.receive) with
    | some (.ok (some more)) => awaitStatus wire deadline (answer ++ more.toList)
    | _ => return .error "connection closed before message completed"

def post (upload : Upload) (host : String) (address : IpAddress) (port : UInt16) : IO (Except String Nat) := do
  let deadline := (← IO.monoMsNow) + uploadLimit
  try
    match ← connectStream (socketAddress address port) deadline with
    | none => return .error "operation timed out"
    | some wire =>
      wire.send (upload.request (joinHostPort host port))
      awaitStatus wire deadline []
  catch error => return .error (ioError error).message

def hostAddress (host : String) : IO (Option IpAddress) := do
  match IpAddress.parse? host with
  | some address => return address
  | none => return ((← lookup host).toOption.getD []).head?

/-- Posts without encryption; there is no other way here. -/
def exchange (upload : Upload) : IO (Except String Nat) := do
  match Url.parse upload.address with
  | .error fault => return .error fault.message
  | .ok url =>
    let host := (url.host.map Url.Host.text).getD ""
    match url.scheme, ← hostAddress host with
    | "http", some address => post upload host address (url.port.getD 80)
    | _, _ => return .error "error sending request"

/-- As long as the system can sleep at once, at most. -/
def sleep (span : Duration) : IO Unit := IO.sleep (.ofNat (min span.millis (UInt32.size - 1)))

def printReport (report : Report) : IO (Except CollectorError Unit) := do
  match report.document with
  | .error reason => return .error (.serialize reason)
  | .ok document =>
    try
      let output ← IO.getStdout
      output.putStr (document ++ "\n")
      output.flush
      return .ok ()
    catch error => return .error (.io (ioError error))

def now : IO Time.Timestamp := do
  let time ← Std.Time.Timestamp.now
  let nanos := time.toNanosecondsSinceUnixEpoch.val
  return ⟨nanos / 1000000000, (nanos % 1000000000).toNat⟩

def environment : Environment IO where
  readFile := readFile
  lookup := lookup
  now := now
  probe := probe
  print text := IO.print text
  printReport := printReport
  complain text := IO.eprint text
  collectors := ⟨Report.post exchange, sleep, draw⟩

end SealedTunnel.Machine
