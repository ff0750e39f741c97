import SealedTunnel.Decimal.Shortest
import SealedTunnel.Json.Basic
import SealedTunnel.Text.Number

/-! Documents written without blanks. Control characters are escaped, so a document is one line. -/
namespace SealedTunnel.Json

def escapedChar (c : Char) : List Char :=
  if c = '"' ∨ c = '\\' then ['\\', c]
  else if ' ' ≤ c then [c]
  else if c = '\x08' then ['\\', 'b']
  else if c = '\x0c' then ['\\', 'f']
  else if c = '\n' then ['\\', 'n']
  else if c = '\r' then ['\\', 'r']
  else if c = '\t' then ['\\', 't']
  else '\\' :: 'u' :: Text.zeroPaddedIn 16 4 c.toNat

def quotedChars (text : String) : List Char := '"' :: text.toList.flatMap escapedChar ++ ['"']

def integerChars (value : Int) : List Char :=
  if value < 0 then '-' :: Nat.toDigits 10 value.natAbs else Nat.toDigits 10 value.natAbs

def joined : List (List Char) → List Char
  | [] => []
  | [item] => item
  | item :: rest => item ++ ',' :: joined rest

mutual

def chars : Json → List Char
  | .null => "null".toList
  | .bool value => (if value then "true" else "false").toList
  | .integer value => integerChars value
  | .float value => if value.isFinite then value.documentText.toList else "null".toList
  | .string text => quotedChars text
  | .array items => '[' :: joined (itemChars items) ++ [']']
  | .object fields => '\x7b' :: joined (fieldChars fields) ++ ['\x7d']

def itemChars : List Json → List (List Char)
  | [] => []
  | item :: rest => chars item :: itemChars rest

def fieldChars : List (String × Json) → List (List Char)
  | [] => []
  | (name, value) :: rest => (quotedChars name ++ ':' :: chars value) :: fieldChars rest

end

def text (document : Json) : String := String.ofList document.chars

end SealedTunnel.Json
