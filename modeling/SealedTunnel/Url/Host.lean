import SealedTunnel.Address.Ip
import SealedTunnel.Text.Number
import SealedTunnel.Url.DomainName

/-!
Hosts of addresses. With the schemes of the web a name that ends in a number is an address of the
fourth version, in one to four parts; with others a name is taken as it is written.
-/
namespace SealedTunnel.Url

inductive Host
  | domain (name : String)
  | ipv4 (ip : Ipv4)
  | ipv6 (ip : Ipv6)
  deriving DecidableEq, Repr

namespace Host

def text : Host → String
  | domain name => name
  | ipv4 ip => ip.text
  | ipv6 ip => ip.text

def isEmpty (host : Host) : Bool := host = domain ""

def ofBracketed (chars : List Char) : Except UrlFault Host :=
  if chars.getLast? ≠ some ']' then .error .invalidIpv6
  else
    match IpAddress.readWhole? Ipv6.read chars.tail.dropLast with
    | some ip => .ok (ipv6 ip)
    | none => .error .invalidIpv6

def isForbiddenOpaque (c : Char) : Bool :=
  ['\x00', '\t', '\n', '\r', ' ', '#', '/', ':', '<', '>', '?', '@', '[', '\\', ']', '^', '|'].contains c

def isPlain (byte : UInt8) : Bool := 0x20 ≤ byte ∧ byte ≤ 0x7e

def ofOpaque (chars : List Char) : Except UrlFault Host :=
  if chars.head? = some '[' then ofBracketed chars
  else if chars.any isForbiddenOpaque then .error .invalidDomainCharacter
  else .ok (domain (String.ofList (Text.Percent.encode isPlain (Bytes.ofText (String.ofList chars)))))

/-- A part of an address: a number in base ten, after a zero in base eight, and after 0x in base sixteen. -/
def number? (chars : List Char) : Option Nat :=
  let (base, digits) := match chars with
    | '0' :: 'x' :: rest | '0' :: 'X' :: rest => (16, rest)
    | '0' :: c :: rest => (8, c :: rest)
    | _ => (10, chars)
  if chars.isEmpty ∨ !digits.all (Text.isDigitOf base) then none else some (Text.numberOf base digits)

/-- The parts of a name; one dot at the end does not count. -/
def dotted (name : List Char) : List (List Char) :=
  let parts := Text.pieces '.' name
  if parts.getLast? = some [] then parts.dropLast else parts

def endsInNumber (name : List Char) : Bool :=
  match (dotted name).getLast? with
  | none => false
  | some last => (!last.isEmpty ∧ last.all Text.isDigit) ∨ (number? last).isSome

/-- All parts but the last are one byte each; the last fills what remains. -/
def ofNumbers (name : List Char) : Except UrlFault Host :=
  match (dotted name).mapM number? with
  | none => .error .invalidIpv4
  | some numbers =>
    let front := numbers.dropLast
    let last := numbers.getLastD 0
    if numbers.length > 4 ∨ front.any (255 < ·) ∨ Nat.pow 256 (4 - front.length) ≤ last then .error .invalidIpv4
    else .ok (ipv4 (Ipv4.ofNat (front.foldr (fun byte high => byte * 0x1000000 + high / 256) 0 + last)))

def ofRegistered (chars : List Char) : Except UrlFault Host :=
  if chars.head? = some '[' then ofBracketed chars
  else
    match DomainName.read chars with
    | .error fault => .error fault
    | .ok [] => .error .emptyHost
    | .ok name => if endsInNumber name then ofNumbers name else .ok (domain (String.ofList name))

end Host
end SealedTunnel.Url
