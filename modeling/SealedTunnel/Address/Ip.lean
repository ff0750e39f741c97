import SealedTunnel.Bytes
import SealedTunnel.Text.Number

/-! IP addresses and their text: four decimal numbers, or eight groups with the longest run of zeros left out. -/
namespace SealedTunnel

open Text (NumberForm)

structure Ipv4 where
  a : UInt8
  b : UInt8
  c : UInt8
  d : UInt8
  deriving DecidableEq, Repr

structure Ipv6 where
  groups : List UInt16
  length_groups : groups.length = 8
  deriving DecidableEq, Repr

inductive IpAddress
  | v4 (ip : Ipv4)
  | v6 (ip : Ipv6)
  deriving DecidableEq, Repr

def expectChar (c : Char) : List Char → Option (List Char)
  | head :: rest => if head = c then some rest else none
  | [] => none

namespace Ipv4

def toBytes (ip : Ipv4) : Bytes := [ip.a, ip.b, ip.c, ip.d]

def ofNat (number : Nat) : Ipv4 :=
  ⟨UInt8.ofNat (number / 0x1000000), UInt8.ofNat (number / 0x10000), UInt8.ofNat (number / 0x100), UInt8.ofNat number⟩

def text (ip : Ipv4) : String :=
  toString ip.a.toNat ++ "." ++ toString ip.b.toNat ++ "." ++ toString ip.c.toNat ++ "." ++ toString ip.d.toNat

def octetForm : NumberForm := ⟨10, 3, false, 255⟩

def read (chars : List Char) : Option (Ipv4 × List Char) := do
  let (a, rest) ← octetForm.read chars
  let (b, rest) ← octetForm.read (← expectChar '.' rest)
  let (c, rest) ← octetForm.read (← expectChar '.' rest)
  let (d, rest) ← octetForm.read (← expectChar '.' rest)
  return (⟨UInt8.ofNat a, UInt8.ofNat b, UInt8.ofNat c, UInt8.ofNat d⟩, rest)

end Ipv4

namespace Ipv6

def toBytes (ip : Ipv6) : Bytes := ip.groups.flatMap fun group => Bytes.ofNatBE 2 group.toNat

/-- The groups in order, completed by zeros in the middle. -/
def ofParts (front back : List UInt16) : Ipv6 :=
  let groups := front ++ List.replicate (8 - front.length - back.length) 0 ++ back
  ⟨groups.take 8 ++ List.replicate (8 - groups.length) 0, by simp; omega⟩

def ofBytes (bytes : Bytes) : Ipv6 :=
  ofParts ((bytes.pieces 2).map fun pair => UInt16.ofNat pair.toNatBE) []

def mapped? (ip : Ipv6) : Option Ipv4 :=
  if ip.groups.take 6 = [0, 0, 0, 0, 0, 0xffff] then
    match ip.groups.drop 6 with
    | [high, low] => some (Ipv4.ofNat (high.toNat * 0x10000 + low.toNat))
    | _ => none
  else none

/-- Start and length of the first longest run of zeros. -/
def longestRun : (index start length : Nat) → (bestStart best : Nat) → List UInt16 → Nat × Nat
  | _, _, _, bestStart, best, [] => (bestStart, best)
  | index, start, length, bestStart, best, group :: rest =>
    if group = 0 then
      let start := if length = 0 then index else start
      if length + 1 > best then longestRun (index + 1) start (length + 1) start (length + 1) rest
      else longestRun (index + 1) start (length + 1) bestStart best rest
    else longestRun (index + 1) 0 0 bestStart best rest

def groupsText (groups : List UInt16) : String :=
  ":".intercalate (groups.map fun group => String.ofList (Nat.toDigits 16 group.toNat))

def text (ip : Ipv6) : String :=
  match ip.mapped? with
  | some embedded => "::ffff:" ++ embedded.text
  | none =>
    let (start, length) := longestRun 0 0 0 0 0 ip.groups
    if length > 1 then groupsText (ip.groups.take start) ++ "::" ++ groupsText (ip.groups.drop (start + length))
    else groupsText ip.groups

def groupForm : NumberForm := ⟨16, 4, true, 0xffff⟩

def separator (first : Bool) (chars : List Char) : Option (List Char) :=
  if first then some chars else expectChar ':' chars

/-- Up to `limit` groups, the last two of which may be an address of the fourth version; whether
they were; and what follows. -/
def readGroups : (limit : Nat) → (first : Bool) → List Char → List UInt16 × Bool × List Char
  | 0, _, chars => ([], false, chars)
  | limit + 1, first, chars =>
    match (if limit = 0 then none else (separator first chars).bind Ipv4.read) with
    | some (ip, rest) =>
      ([UInt16.ofNat (ip.a.toNat * 256 + ip.b.toNat), UInt16.ofNat (ip.c.toNat * 256 + ip.d.toNat)], true, rest)
    | none =>
      match (separator first chars).bind groupForm.read with
      | some (group, rest) =>
        let (groups, embedded, rest) := readGroups limit false rest
        (UInt16.ofNat group :: groups, embedded, rest)
      | none => ([], false, chars)

def read (chars : List Char) : Option (Ipv6 × List Char) :=
  let (front, embedded, rest) := readGroups 8 true chars
  if front.length = 8 then some (ofParts front [], rest)
  else if embedded then none
  else do
    let rest ← expectChar ':' rest
    let rest ← expectChar ':' rest
    let (back, _, rest) := readGroups (7 - front.length) true rest
    return (ofParts front back, rest)

end Ipv6

namespace IpAddress

def toBytes : IpAddress → Bytes
  | v4 ip => ip.toBytes
  | v6 ip => ip.toBytes

def text : IpAddress → String
  | v4 ip => ip.text
  | v6 ip => ip.text

def readWhole? {α : Type} (read : List Char → Option (α × List Char)) (chars : List Char) : Option α :=
  match read chars with
  | some (value, []) => some value
  | _ => none

def parse? (text : String) : Option IpAddress :=
  ((readWhole? Ipv4.read text.toList).map v4).orElse fun _ => (readWhole? Ipv6.read text.toList).map v6

def before : IpAddress → IpAddress → Bool
  | v4 _, v6 _ => true
  | v6 _, v4 _ => false
  | v4 left, v4 right => left.toBytes.toNatBE ≤ right.toBytes.toNatBE
  | v6 left, v6 right => left.toBytes.toNatBE ≤ right.toBytes.toNatBE

end IpAddress

def joinHostPort (host : String) (port : UInt16) : String :=
  match IpAddress.parse? host with
  | some (.v6 ip) => "[" ++ ip.text ++ "]:" ++ toString port.toNat
  | _ => host ++ ":" ++ toString port.toNat

end SealedTunnel
