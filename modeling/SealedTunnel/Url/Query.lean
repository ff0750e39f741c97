import SealedTunnel.Text.Percent
import SealedTunnel.Text.Utf8
import SealedTunnel.Url.Parser

/-! The pairs of names and values in a query. A plus sign stands for a blank. -/
namespace SealedTunnel.Url

def readField (chars : List Char) : String :=
  Text.decodeLossy (Text.Percent.decode (chars.map fun c => if c = '+' then ' ' else c))

/-- The pair that a part of a query stands for; without an equals sign the value is empty. -/
def readPair (chars : List Char) : String × String :=
  match Text.splitFirst? '=' chars with
  | none => (readField chars, "")
  | some (name, value) => (readField name, readField value)

def queryPairs (query : String) : List (String × String) :=
  ((Text.pieces '&' query.toList).filter (!·.isEmpty)).map readPair

def isPlainField (byte : UInt8) : Bool :=
  let c := Char.ofNat byte.toNat
  isAsciiLetter c ∨ Text.isDigit c ∨ c = '*' ∨ c = '-' ∨ c = '.' ∨ c = '_'

def writeField (text : String) : List Char :=
  (Bytes.ofText text).flatMap fun byte =>
    if byte = 0x20 then ['+'] else if isPlainField byte then [Char.ofNat byte.toNat] else Text.Percent.escaped byte

def writePair (name value : String) : String := String.ofList (writeField name ++ '=' :: writeField value)

end SealedTunnel.Url
