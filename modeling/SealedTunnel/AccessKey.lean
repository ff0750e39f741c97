import SealedTunnel.Address.Ip
import SealedTunnel.Base64
import SealedTunnel.MasterKey
import SealedTunnel.Salt
import SealedTunnel.Text.Quoted
import SealedTunnel.Url.Query

/-!
Access keys: the address of a proxy, the cipher and the secret in one line of text. In the usual form it
is an address whose user info names cipher and secret, in base64 or as they are; in the legacy form the
cipher, the secret and the server are base64 together.
-/
namespace SealedTunnel

structure AccessKey where
  /-- Without brackets. -/
  host : String
  port : UInt16
  key : MasterKey
  /-- What salts begin with. -/
  lead : Bytes

def leadText (lead : Bytes) : String := String.ofList (lead.map fun byte : UInt8 => Char.ofNat byte.toNat)

def readLead (chars : List Char) : Except Fault Bytes :=
  chars.mapM fun c =>
    if c.toNat < 256 then .ok (UInt8.ofNat c.toNat) else .error (.config (.characterOutOfRange c.toNat))

namespace AccessKey

def scheme : String := "ss"

def leadField : String := "prefix"

def hostOf (url : Url) : Except Fault String :=
  match url.host with
  | none => .error (.config .missingHost)
  | some host => if host.isEmpty then .error (.config .missingHost) else .ok host.text

def leadOf (url : Url) : Except Fault Bytes :=
  match (Url.queryPairs (url.query.getD "")).lookup leadField with
  | none => .ok []
  | some value => readLead value.toList

def ofServer (url : Url) (cipherInfo : String) : Except Fault AccessKey := do
  let host ← hostOf url
  let port ← url.port.elim (.error (.config .missingPort)) .ok
  let (cipher, secret) ← (Text.splitFirst? ':' cipherInfo.toList).elim (.error (.config .missingSecretSeparator)) .ok
  let key ← MasterKey.ofSecret (String.ofList cipher) (String.ofList secret)
  let lead ← leadOf url
  return ⟨host, port, key, lead⟩

def readUserText (text : String) : Except Fault String :=
  (Text.Percent.decodeText? text.toList).elim (.error (.config .userInfoText)) .ok

def cipherInfoOf (url : Url) : Except Fault String := do
  let name ← readUserText url.username
  let written ← match url.password with
    | none => .ok name
    | some password => (readUserText password).map (name ++ ":" ++ ·)
  return (Base64.decodeText? written.toList).getD written

def parseUsual (text : String) : Except Fault AccessKey := do
  let url ← (Url.parse text).mapError fun cause => .config (.accessKeyUrl cause)
  if url.scheme ≠ scheme then .error (.config (.unsupportedScheme url.scheme))
  else if url.username.isEmpty then .error (.config .missingCipherInfo)
  else ofServer url (← cipherInfoOf url)

/-- What follows the scheme of a legacy key; its letters may be of either case. -/
def legacyBody? (chars : List Char) : Option (List Char) :=
  if (chars.take 5).map Char.toLower = "ss://".toList then some (chars.drop 5) else none

def parseLegacy (text : String) : Except Fault AccessKey := do
  let body ← (legacyBody? text.toList).elim (.error (.config .notAnAccessKey)) .ok
  let (written, fragment) := match Text.splitFirst? '#' body with
    | none => (body, [])
    | some (written, fragment) => (written, '#' :: fragment)
  let decoded ← (Base64.decodeText? written).elim (.error (.config .undecodableLegacyKey)) .ok
  let (cipherInfo, server) ← (Text.splitLast? '@' decoded.toList).elim (.error (.config .missingUserSeparator)) .ok
  let url ← (Url.parse (String.ofList ("ss://".toList ++ server ++ fragment))).mapError fun cause => .config (.serverUrl cause)
  ofServer url (String.ofList cipherInfo)

/-- Reads a key in either form; the error is that of the usual one. -/
def parse (text : String) : Except Fault AccessKey :=
  let trimmed := Text.trim text
  match parseUsual trimmed with
  | .ok key => .ok key
  | .error fault => ((parseLegacy trimmed).toOption).elim (.error fault) .ok

def serverAddress (key : AccessKey) : String := joinHostPort key.host key.port

def saltSource? (key : AccessKey) (entropy : Entropy) : Option SaltSource :=
  if key.lead.isEmpty then none else some (.led key.lead entropy)

def redacted (key : AccessKey) : String :=
  "ss://REDACTED@" ++ key.serverAddress ++
    (if key.lead.isEmpty then "" else "?" ++ Url.writePair leadField (leadText key.lead))

def describe (key : AccessKey) : String :=
  "AccessKey \x7b server: " ++ Text.quoted key.serverAddress ++ ", cipher: " ++ Text.quoted key.key.spec.name ++
    ", prefix: " ++ Text.quoted (leadText key.lead) ++ " \x7d"

end AccessKey
end SealedTunnel
