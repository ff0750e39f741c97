import SealedTunnel.Text.Number
import SealedTunnel.Json.Basic

/-!
Documents as they are written, before any number or string in them is given a value. Reading a
document out of a text is settled by its grammar alone.
-/
namespace SealedTunnel.Json

open Text (isDigit digitValue)

/-- A piece of a string: a character, or one half of an escaped pair that stands alone. -/
inductive Piece
  | char (c : Char)
  | half (code : Nat)
  deriving DecidableEq, Repr

structure NumberText where
  negative : Bool
  whole : List Char
  /-- The digits behind the point. -/
  fraction : Option (List Char)
  /-- Whether the exponent is negative, and its digits. -/
  exponent : Option (Bool × List Char)
  deriving DecidableEq, Repr

inductive Written
  | null
  | bool (value : Bool)
  | number (text : NumberText)
  | string (pieces : List Piece)
  | array (items : List Written)
  | object (fields : List (List Piece × Written))
  deriving Repr

def isBlank (c : Char) : Bool := c = ' ' ∨ c = '\n' ∨ c = '\t' ∨ c = '\r'

def skipBlanks (chars : List Char) : List Char := chars.dropWhile isBlank

def readDigits (chars : List Char) : Option (List Char × List Char) :=
  match chars.takeWhile isDigit with
  | [] => none
  | digits => some (digits, chars.dropWhile isDigit)

/-- The whole part, in which a zero may only stand alone. -/
def readWhole (chars : List Char) : Option (List Char × List Char) := do
  let (digits, rest) ← readDigits chars
  if digits.length > 1 ∧ digits.head? = some '0' then none else some (digits, rest)

def readFraction : List Char → Option (Option (List Char) × List Char)
  | '.' :: rest => do
    let (digits, rest) ← readDigits rest
    return (some digits, rest)
  | chars => some (none, chars)

def readExponentDigits (negative : Bool) (chars : List Char) :
    Option (Option (Bool × List Char) × List Char) := do
  let (digits, rest) ← readDigits chars
  return (some (negative, digits), rest)

def readExponent : List Char → Option (Option (Bool × List Char) × List Char)
  | c :: rest =>
    if c = 'e' ∨ c = 'E' then
      match rest with
      | '+' :: rest => readExponentDigits false rest
      | '-' :: rest => readExponentDigits true rest
      | _ => readExponentDigits false rest
    else some (none, c :: rest)
  | [] => some (none, [])

def readNumber (negative : Bool) (chars : List Char) : Option (NumberText × List Char) := do
  let (whole, rest) ← readWhole chars
  let (fraction, rest) ← readFraction rest
  let (exponent, rest) ← readExponent rest
  return (⟨negative, whole, fraction, exponent⟩, rest)

def readUnit : List Char → Option (Nat × List Char)
  | a :: b :: c :: d :: rest =>
    if [a, b, c, d].all (Text.isDigitOf 16) then some (Text.numberOf 16 [a, b, c, d], rest) else none
  | _ => none

def isLeadUnit (code : Nat) : Bool := 0xd800 ≤ code ∧ code < 0xdc00

def isTrailUnit (code : Nat) : Bool := 0xdc00 ≤ code ∧ code < 0xe000

def readNextUnit : List Char → Option (Nat × List Char)
  | '\\' :: 'u' :: rest => readUnit rest
  | _ => none

/-- The piece that an escaped code unit begins: a pair of units makes one character. -/
def readUnitPiece (chars : List Char) : Option (Piece × List Char) := do
  let (code, rest) ← readUnit chars
  if isLeadUnit code then
    match readNextUnit rest with
    | some (trail, after) =>
      if isTrailUnit trail then
        return (.char (Char.ofNat (0x10000 + (code - 0xd800) * 0x400 + (trail - 0xdc00))), after)
      else return (.half code, rest)
    | none => return (.half code, rest)
  else if isTrailUnit code then return (.half code, rest)
  else return (.char (Char.ofNat code), rest)

def readEscape : List Char → Option (Piece × List Char)
  | c :: rest =>
    match c with
    | '"' | '\\' | '/' => some (.char c, rest)
    | 'b' => some (.char '\x08', rest)
    | 'f' => some (.char '\x0c', rest)
    | 'n' => some (.char '\n', rest)
    | 'r' => some (.char '\r', rest)
    | 't' => some (.char '\t', rest)
    | 'u' => readUnitPiece rest
    | _ => none
  | [] => none

def readPieces : (fuel : Nat) → List Char → Option (List Piece × List Char)
  | 0, _ => none
  | fuel + 1, chars =>
    match chars with
    | '"' :: rest => some ([], rest)
    | '\\' :: rest => do
      let (piece, rest) ← readEscape rest
      let (pieces, rest) ← readPieces fuel rest
      return (piece :: pieces, rest)
    | c :: rest =>
      if c < ' ' then none
      else do
        let (pieces, rest) ← readPieces fuel rest
        return (.char c :: pieces, rest)
    | [] => none

def readString (chars : List Char) : Option (List Piece × List Char) :=
  match chars with
  | '"' :: rest => readPieces (rest.length + 1) rest
  | _ => none

def readWord (word : List Char) (value : Written) (chars : List Char) : Option (Written × List Char) :=
  if word.isPrefixOf chars then some (value, chars.drop word.length) else none

mutual

/-- The value at the front of a text without leading blanks, and what follows it. -/
def readValue : (fuel : Nat) → List Char → Option (Written × List Char)
  | 0, _ => none
  | fuel + 1, chars =>
    match chars with
    | 'n' :: _ => readWord "null".toList .null chars
    | 't' :: _ => readWord "true".toList (.bool true) chars
    | 'f' :: _ => readWord "false".toList (.bool false) chars
    | '"' :: _ => (readString chars).map fun (pieces, rest) => (.string pieces, rest)
    | '[' :: rest =>
      match skipBlanks rest with
      | ']' :: rest => some (.array [], rest)
      | rest => (readItems fuel rest).map fun (items, rest) => (.array items, rest)
    | '\x7b' :: rest =>
      match skipBlanks rest with
      | '\x7d' :: rest => some (.object [], rest)
      | rest => (readFields fuel rest).map fun (fields, rest) => (.object fields, rest)
    | '-' :: rest => (readNumber true rest).map fun (number, rest) => (.number number, rest)
    | _ => (readNumber false chars).map fun (number, rest) => (.number number, rest)

def readItems : (fuel : Nat) → List Char → Option (List Written × List Char)
  | 0, _ => none
  | fuel + 1, chars => do
    let (item, rest) ← readValue fuel chars
    match skipBlanks rest with
    | ',' :: rest =>
      let (items, rest) ← readItems fuel (skipBlanks rest)
      return (item :: items, rest)
    | ']' :: rest => return ([item], rest)
    | _ => none

def readFields : (fuel : Nat) → List Char → Option (List (List Piece × Written) × List Char)
  | 0, _ => none
  | fuel + 1, chars => do
    let (name, rest) ← readString chars
    match skipBlanks rest with
    | ':' :: rest =>
      let (value, rest) ← readValue fuel (skipBlanks rest)
      match skipBlanks rest with
      | ',' :: rest =>
        let (fields, rest) ← readFields fuel (skipBlanks rest)
        return ((name, value) :: fields, rest)
      | '\x7d' :: rest => return ([(name, value)], rest)
      | _ => none
    | _ => none

end

def Written.parse? (text : String) : Option Written :=
  let chars := skipBlanks text.toList
  match readValue (chars.length + 1) chars with
  | some (value, rest) => if (skipBlanks rest).isEmpty then some value else none
  | none => none

end SealedTunnel.Json
