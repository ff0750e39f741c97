import SealedTunnel.Bytes

/-! Percent encoding: a byte may be written as a percent sign and two hexadecimal digits. -/
namespace SealedTunnel.Text.Percent

def upperHexDigit (value : Nat) : Char := (Nat.digitChar value).toUpper

def escaped (byte : UInt8) : List Char := ['%', upperHexDigit (byte.toNat / 16), upperHexDigit (byte.toNat % 16)]

def encode (plain : UInt8 → Bool) (bytes : Bytes) : List Char :=
  bytes.flatMap fun byte => if plain byte then [Char.ofNat byte.toNat] else escaped byte

def utf8 (c : Char) : Bytes := Bytes.ofText c.toString

/-- The bytes of a text. A percent sign without two digits behind it stands for itself. -/
def decode : List Char → Bytes
  | [] => []
  | '%' :: high :: low :: rest =>
    match Bytes.hexValue? high, Bytes.hexValue? low with
    | some h, some l => UInt8.ofNat (h * 16 + l) :: decode rest
    | _, _ => 0x25 :: decode (high :: low :: rest)
  | c :: rest => utf8 c ++ decode rest

def decodeText? (chars : List Char) : Option String := (decode chars).toText?

end SealedTunnel.Text.Percent
