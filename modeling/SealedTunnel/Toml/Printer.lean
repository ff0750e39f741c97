import SealedTunnel.Decimal.Shortest
import SealedTunnel.Toml.Parser

/-! Writing documents of settings: a line for each entry, with the tables inside of it on that line. -/
namespace SealedTunnel.Toml

open Decimal (Binary64)

def escapedChar (c : Char) : List Char :=
  if c = '"' ∨ c = '\\' then ['\\', c]
  else if isPrintable c then [c]
  else '\\' :: 'u' :: Text.zeroPaddedIn 16 4 c.toNat

def quotedChars (text : String) : List Char := '"' :: text.toList.flatMap escapedChar ++ ['"']

def nameChars (name : String) : List Char :=
  if !name.isEmpty ∧ name.toList.all isKeyChar then name.toList else quotedChars name

def integerChars (value : Int) : List Char :=
  if value < 0 then '-' :: Nat.toDigits 10 value.natAbs else Nat.toDigits 10 value.natAbs

def floatChars (value : Binary64) : List Char :=
  if value.isNaN then "nan".toList
  else if value.isInfinite then value.signText.toList ++ "inf".toList
  else value.documentText.toList

def joined : List (List Char) → List Char
  | [] => []
  | [item] => item
  | item :: rest => item ++ ',' :: ' ' :: joined rest

/-- Any moment; which one was not kept. -/
def momentChars : List Char := "1970-01-01T00:00:00Z".toList

mutual

def chars : Toml → List Char
  | .string text => quotedChars text
  | .integer value => integerChars value
  | .float value => floatChars value
  | .boolean value => (if value then "true" else "false").toList
  | .moment => momentChars
  | .array items => '[' :: joined (itemChars items) ++ [']']
  | .table fields => '\x7b' :: joined (entryChars fields) ++ ['\x7d']

def itemChars : List Toml → List (List Char)
  | [] => []
  | item :: rest => chars item :: itemChars rest

def entryChars : List (String × Toml) → List (List Char)
  | [] => []
  | (name, value) :: rest => (nameChars name ++ " = ".toList ++ chars value) :: entryChars rest

end

def documentText (fields : List (String × Toml)) : String :=
  String.ofList ((entryChars fields).flatMap (· ++ ['\n']))

end SealedTunnel.Toml
