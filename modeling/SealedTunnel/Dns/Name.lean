import SealedTunnel.Bytes
import SealedTunnel.Error
import SealedTunnel.Text.CharClass
import SealedTunnel.Text.Number

/-!
Domain names: labels from the most to the least specific, their text with dots between, and their
encoding, each label behind its length and an empty one at the end.
-/
namespace SealedTunnel.Dns

structure Name where
  labels : List Bytes
  deriving DecidableEq, Repr

namespace Name

def root : Name := ⟨[]⟩

def longestLabel : Nat := 63

def longest : Nat := 255

def size (name : Name) : Nat := name.labels.foldr (fun label size => label.length + 1 + size) 0

def isAlphanumeric (c : Char) : Bool :=
  ('0' ≤ c ∧ c ≤ '9') ∨ ('a' ≤ c ∧ c ≤ 'z') ∨ ('A' ≤ c ∧ c ≤ 'Z')

/-- A dot is in a label only if it was escaped. -/
def isLeading (c : Char) : Bool := isAlphanumeric c ∨ c = '_' ∨ c = '*' ∨ c = '.'

def isFollowing (c : Char) : Bool := isAlphanumeric c ∨ c = '_' ∨ c = '-' ∨ c = '.'

def label (chars : List Char) : Except NameFault Bytes :=
  let wellFormed := match chars with
    | [] => false
    | first :: rest => isLeading first ∧ rest.all isFollowing
  if !wellFormed then .error (.malformedLabel (String.ofList chars))
  else if chars.length > longestLabel then .error (.labelTooLong chars.length)
  else .ok (Bytes.ofText (String.ofList chars))

def append (name : Name) (label : Bytes) : Except NameFault Name :=
  let size := name.size + label.length + 1
  if size > longest then .error (.nameTooLong size) else .ok ⟨name.labels ++ [label]⟩

/-- How much of an escaped character has been read: a backslash and up to two octal digits. -/
inductive Escape
  | plain
  | begun
  | first (high : Nat)
  | second (high middle : Nat)

def octal (c : Char) : Except NameFault Nat :=
  if '0' ≤ c ∧ c ≤ '7' then .ok (c.toNat - '0'.toNat) else .error (.illegalChar c)

def readChars (name : Name) (current : List Char) : Escape → List Char → Except NameFault Name
  | _, [] => if current.isEmpty then .ok name else do name.append (← label current)
  | .plain, c :: rest =>
    if c = '.' then do
      let name ← name.append (← label current)
      readChars name [] .plain rest
    else if c = '\\' then readChars name current .begun rest
    else if Text.isControl c ∨ Text.isBlank c then .error (.unrecognizedChar c)
    else readChars name (current ++ [c]) .plain rest
  | .begun, c :: rest =>
    if Text.isNumeric c then do readChars name current (.first (← octal c)) rest
    else readChars name (current ++ [c]) .plain rest
  | .first high, c :: rest =>
    if Text.isNumeric c then do readChars name current (.second high (← octal c)) rest
    else .error (.unrecognizedChar c)
  | .second high middle, c :: rest =>
    if Text.isNumeric c then do
      let low ← octal c
      readChars name (current ++ [Char.ofNat (high * 64 + middle * 8 + low)]) .plain rest
    else .error (.unrecognizedChar c)

/-- The name that a text stands for. An escape that the end cuts off is dropped. -/
def ofText (text : String) : Except NameFault Name :=
  if text = "." then .ok root else readChars root [] .plain text.toList

def encode (name : Name) : Except NameFault Bytes :=
  let encoded := (name.labels.flatMap fun label => UInt8.ofNat label.length :: label) ++ [0]
  if encoded.length > longest then .error (.nameTooLong encoded.length) else .ok encoded

end Name
end SealedTunnel.Dns
