import SealedTunnel.Address.Ip
import SealedTunnel.Error
import SealedTunnel.Text.Split

/-!
The targets a tunnel leads to, their text `host:port`, and their encoding: a type byte, the address,
and the port, most significant byte first.
-/
namespace SealedTunnel

inductive Target
  | ipv4 (ip : Ipv4) (port : UInt16)
  | ipv6 (ip : Ipv6) (port : UInt16) (flow scope : UInt32)
  | domain (host : String) (port : UInt16)
  deriving DecidableEq, Repr

namespace Target

def port : Target → UInt16
  | ipv4 _ port => port
  | ipv6 _ port _ _ => port
  | domain _ port => port

def hostText : Target → String
  | ipv4 ip _ => ip.text
  | ipv6 ip _ _ _ => ip.text
  | domain host _ => host

def text : Target → String
  | ipv4 ip port => ip.text ++ ":" ++ toString port.toNat
  | ipv6 ip port _ scope =>
    let zone := if scope = 0 then "" else "%" ++ toString scope.toNat
    "[" ++ ip.text ++ zone ++ "]:" ++ toString port.toNat
  | domain host port => host ++ ":" ++ toString port.toNat

def longestDomain : Nat := 255

def portForm : Text.NumberForm := ⟨10, 0, true, 0xffff⟩

def scopeForm : Text.NumberForm := ⟨10, 0, true, 0xffffffff⟩

def readPort (chars : List Char) : Option (Nat × List Char) := do
  portForm.read (← expectChar ':' chars)

def readIpv4 (chars : List Char) : Option (Target × List Char) := do
  let (ip, rest) ← Ipv4.read chars
  let (port, rest) ← readPort rest
  return (ipv4 ip (UInt16.ofNat port), rest)

def readScope (chars : List Char) : Nat × List Char :=
  match (expectChar '%' chars).bind scopeForm.read with
  | some (scope, rest) => (scope, rest)
  | none => (0, chars)

def readIpv6 (chars : List Char) : Option (Target × List Char) := do
  let (ip, rest) ← Ipv6.read (← expectChar '[' chars)
  let (scope, rest) := readScope rest
  let (port, rest) ← readPort (← expectChar ']' rest)
  return (ipv6 ip (UInt16.ofNat port) 0 (UInt32.ofNat scope), rest)

def numeric? (text : String) : Option Target :=
  (IpAddress.readWhole? readIpv4 text.toList).orElse fun _ => IpAddress.readWhole? readIpv6 text.toList

def parse (text : String) : Except Fault Target :=
  match numeric? text with
  | some target => .ok target
  | none =>
    match Text.splitLast? ':' text.toList with
    | none => .error (.address (.missingPort text))
    | some (host, port) =>
      match Text.decimal? 0xffff port with
      | none => .error (.address (.badPort text))
      | some port =>
        let name := String.ofList host
        if name.utf8ByteSize = 0 ∨ name.utf8ByteSize > longestDomain then .error (.address (.hostLength text))
        else if host.contains ':' ∨ host.head? = some '[' then .error (.address (.badHost text))
        else .ok (domain name (UInt16.ofNat port))

def encodedLength : Target → Nat
  | ipv4 .. => 7
  | ipv6 .. => 19
  | domain host _ => 4 + host.utf8ByteSize

def isEncodable : Target → Bool
  | domain host _ => 0 < host.utf8ByteSize ∧ host.utf8ByteSize ≤ longestDomain
  | _ => true

def portBytes (target : Target) : Bytes := Bytes.ofNatBE 2 target.port.toNat

def encode (target : Target) : Except Fault Bytes :=
  match target with
  | ipv4 ip _ => .ok (1 :: ip.toBytes ++ target.portBytes)
  | ipv6 ip _ _ _ => .ok (4 :: ip.toBytes ++ target.portBytes)
  | domain host _ =>
    let name := Bytes.ofText host
    if target.isEncodable then .ok (3 :: UInt8.ofNat name.length :: name ++ target.portBytes)
    else .error (.address (.domainLength name.length))

def put (bytes : Bytes) : ExceptT Fault (StateM Bytes) Unit := modify (· ++ bytes)

/-- Writes the encoding into a buffer. The length of a name is looked at before any byte of it is written. -/
def write (target : Target) : ExceptT Fault (StateM Bytes) Unit := do
  if let domain host _ := target then
    if ¬ target.isEncodable then throw (.address (.domainLength host.utf8ByteSize))
  match target with
  | ipv4 ip _ =>
    put [1]
    put ip.toBytes
  | ipv6 ip _ _ _ =>
    put [4]
    put ip.toBytes
  | domain host _ =>
    put [3]
    put [UInt8.ofNat host.utf8ByteSize]
    put (Bytes.ofText host)
  put target.portBytes

def layout : Bytes → Except Fault (Nat × Nat)
  | [] => .error (.address .empty)
  | type :: rest =>
    if type = 1 then .ok (1, 4)
    else if type = 4 then .ok (1, 16)
    else if type = 3 then
      match rest with
      | [] => .error (.address .missingDomainLength)
      | length :: _ => .ok (2, length.toNat)
    else .error (.address (.unknownType type))

def ofParts (type : UInt8) (host : Bytes) (port : UInt16) : Except Fault Target :=
  match type, host with
  | 1, [a, b, c, d] => .ok (ipv4 ⟨a, b, c, d⟩ port)
  | 4, groups => .ok (ipv6 (Ipv6.ofBytes groups) port 0 0)
  | _, name =>
    match Bytes.toText? name with
    | some name => .ok (domain name port)
    | none => .error (.address .domainText)

def decode (data : Bytes) : Except Fault (Target × Nat) := do
  let (start, length) ← layout data
  let total := start + length + 2
  if data.length < total then throw (.address (.incomplete total data.length))
  let host := (data.drop start).take length
  let port := UInt16.ofNat (Bytes.toNatBE ((data.drop (start + length)).take 2))
  let target ← ofParts (data.headD 0) host port
  return (target, total)

end Target
end SealedTunnel
