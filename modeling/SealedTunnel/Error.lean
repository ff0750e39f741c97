import SealedTunnel.Cipher.Kind
import SealedTunnel.Duration
import SealedTunnel.Posix.Errno
import SealedTunnel.Text.Quoted

namespace SealedTunnel

open Text (quoted)

inductive CryptoFault
  | keyLength (length : Nat) (kind : AeadKind)
  | expansion
  | shortSubkey
  | notInitialized
  | sealing
  | other (text : String)
  deriving DecidableEq, Repr

def CryptoFault.message : CryptoFault → String
  | keyLength length kind => s!"invalid key length {length} for " ++ kind.label
  | expansion => "HKDF expansion failed"
  | shortSubkey => "session key derivation came up short"
  | notInitialized => "stream cipher not initialized"
  | sealing => "encryption failed"
  | other text => text

inductive SaltFault
  | fixedLength (held requested : Nat)
  | leadTooLong (lead requested : Nat)
  | entropy (reason : String)
  | other (text : String)
  deriving DecidableEq, Repr

def SaltFault.message : SaltFault → String
  | fixedLength held requested => s!"fixed salt has {held} bytes, {requested} requested"
  | leadTooLong lead requested => s!"prefix is too long: {lead} bytes for a {requested} byte salt"
  | entropy reason => "entropy source failed: " ++ reason
  | other text => text

inductive AddressFault
  | missingPort (text : String)
  | badPort (text : String)
  | hostLength (text : String)
  | badHost (text : String)
  | domainLength (length : Nat)
  | empty
  | missingDomainLength
  | unknownType (type : UInt8)
  | incomplete (needed available : Nat)
  | domainText
  | other (text : String)
  deriving DecidableEq, Repr

def AddressFault.message : AddressFault → String
  | missingPort text => "missing port in " ++ quoted text
  | badPort text => "invalid port in " ++ quoted text
  | hostLength text => "invalid host length in " ++ quoted text
  | badHost text => "invalid host in " ++ quoted text
  | domainLength length => s!"domain length {length} out of range"
  | empty => "empty address"
  | missingDomainLength => "incomplete domain length"
  | unknownType type =>
    "unknown address type 0x" ++ String.ofList (Nat.toDigits 16 (type.toNat / 16) ++ Nat.toDigits 16 (type.toNat % 16))
  | incomplete needed available => s!"incomplete address: need {needed} bytes, got {available}"
  | domainText => "domain is not valid UTF-8"
  | other text => text

inductive UrlFault
  | relativeWithoutBase
  | emptyHost
  | invalidDomainCharacter
  | internationalName
  | invalidPort
  | invalidIpv4
  | invalidIpv6
  deriving DecidableEq, Repr

def UrlFault.message : UrlFault → String
  | relativeWithoutBase => "relative URL without a base"
  | emptyHost => "empty host"
  | invalidDomainCharacter => "invalid domain character"
  | internationalName => "invalid international domain name"
  | invalidPort => "invalid port number"
  | invalidIpv4 => "invalid IPv4 address"
  | invalidIpv6 => "invalid IPv6 address"

inductive NameFault
  | malformedLabel (text : String)
  | unrecognizedChar (c : Char)
  | illegalChar (c : Char)
  | labelTooLong (length : Nat)
  | nameTooLong (length : Nat)
  deriving DecidableEq, Repr

def NameFault.message : NameFault → String
  | malformedLabel text => "Malformed label: " ++ text
  | unrecognizedChar c => "unrecognized char: " ++ c.toString
  | illegalChar c => "illegal char: " ++ c.toString
  | labelTooLong length => s!"label bytes exceed 63: {length}"
  | nameTooLong length => s!"name label data exceed 255: {length}"

inductive ConfigFault
  | accessKeyUrl (cause : UrlFault)
  | unsupportedScheme (scheme : String)
  | missingCipherInfo
  | notAnAccessKey
  | undecodableLegacyKey
  | missingUserSeparator
  | serverUrl (cause : UrlFault)
  | missingHost
  | missingPort
  | missingSecretSeparator
  | userInfoText
  | characterOutOfRange (code : Nat)
  | malformedFile
  | unreadableFile (path reason : String)
  | emptyDomain
  | badDomain (domain : String) (cause : NameFault)
  | unencodableDomain (cause : NameFault)
  | other (text : String)
  deriving DecidableEq, Repr

def ConfigFault.message : ConfigFault → String
  | accessKeyUrl cause => "invalid access key: " ++ cause.message
  | unsupportedScheme scheme => "unsupported scheme " ++ quoted scheme
  | missingCipherInfo => "cipher info not specified"
  | notAnAccessKey => "access key must start with ss://"
  | undecodableLegacyKey => "failed to decode legacy access key"
  | missingUserSeparator => "invalid user info: no '@' separator"
  | serverUrl cause => "invalid server address: " ++ cause.message
  | missingHost => "host not specified"
  | missingPort => "port not specified"
  | missingSecretSeparator => "invalid cipher info: no ':' separator"
  | userInfoText => "user info is not valid UTF-8"
  | characterOutOfRange code => s!"character out of range: {code}"
  | malformedFile => "invalid config:"
  | unreadableFile path reason => "failed to read " ++ path ++ ": " ++ reason
  | emptyDomain => "test domain must not be empty"
  | unencodableDomain cause => "failed to encode DNS query: " ++ cause.message
  | badDomain domain cause => "invalid test domain " ++ quoted domain ++ ": " ++ cause.message
  | other text => text

/-- A failure inside the library. Decryption deliberately carries no detail. -/
inductive Fault
  | unsupportedCipher (name : String)
  | shortBuffer (needed available : Nat)
  | shortPacket (needed actual : Nat)
  | decryption
  | crypto (cause : CryptoFault)
  | salt (cause : SaltFault)
  | address (cause : AddressFault)
  | config (cause : ConfigFault)
  | timeout (after : Duration)
  deriving DecidableEq, Repr

namespace Fault

def message : Fault → String
  | unsupportedCipher name => "unsupported cipher: " ++ name
  | shortBuffer needed available => s!"short buffer: need {needed} bytes, have {available}"
  | shortPacket needed actual => s!"short packet: need at least {needed} bytes, got {actual}"
  | decryption => "failed to decrypt"
  | crypto cause => "cryptographic error: " ++ cause.message
  | salt cause => "salt error: " ++ cause.message
  | address cause => "invalid address: " ++ cause.message
  | config cause => "configuration error: " ++ cause.message
  | timeout after => "operation timed out after " ++ after.text

def isIntegrityFailure : Fault → Bool
  | shortPacket .. | decryption => true
  | _ => false

def isConfigError : Fault → Bool
  | unsupportedCipher _ | address _ | config _ | salt _ => true
  | _ => false

def ioKind : Fault → IoKind
  | shortPacket .. => .unexpectedEof
  | timeout _ => .timedOut
  | address _ | config _ | unsupportedCipher _ => .invalidInput
  | _ => .invalidData

end Fault

/-- An error of a connection: a code of the operating system, or a class alone, with a note, or
with the fault behind it. -/
inductive IoError
  | os (code : Int)
  | bare (kind : IoKind)
  | note (kind : IoKind) (text : String)
  | fault (kind : IoKind) (cause : Fault)
  deriving DecidableEq, Repr

namespace IoError

def kind : IoError → IoKind
  | os code => Posix.errnoKind code
  | bare kind => kind
  | note kind _ => kind
  | fault kind _ => kind

def message : IoError → String
  | os code => Posix.errnoText code ++ s!" (os error {code})"
  | bare kind => kind.description
  | note _ text => text
  | fault _ cause => cause.message

def osCode? : IoError → Option Int
  | os code => some code
  | _ => none

def ofFault (cause : Fault) : IoError := fault cause.ioKind cause

/-- The name under which a report lists the error: that of its code, or of a timeout, or none. -/
def posixName (error : IoError) : String :=
  match error.osCode? with
  | some code => Posix.errnoName code
  | none => if error.kind = .timedOut then "ETIMEDOUT" else ""

end IoError

inductive TunnelError
  | fault (cause : Fault)
  | network (error : IoError)
  deriving DecidableEq, Repr

namespace TunnelError

def message : TunnelError → String
  | fault cause => cause.message
  | network error => "network error: " ++ error.message

def isIntegrityFailure : TunnelError → Bool
  | fault cause => cause.isIntegrityFailure
  | network _ => false

def isConfigError : TunnelError → Bool
  | fault cause => cause.isConfigError
  | network _ => false

def toIoError : TunnelError → IoError
  | fault cause => IoError.ofFault cause
  | network error => error

end TunnelError

section

variable {ε ε' α β : Type} (explain : ε → ε')

theorem mapError_ok (value : α) : (Except.ok value).mapError explain = .ok value := rfl

theorem mapError_error (cause : ε) : (Except.error cause : Except ε α).mapError explain = .error (explain cause) := rfl

variable {explain} {value : α} {fault : ε} {result : Except ε α}

theorem mapError_eq_ok : result.mapError explain = .ok value ↔ result = .ok value := by
  cases result with
  | ok given => rw [mapError_ok, Except.ok.injEq, Except.ok.injEq]
  | error cause => simp [mapError_error]

theorem bind_eq_ok {next : α → Except ε β} {last : β} :
    result >>= next = .ok last ↔ ∃ value, result = .ok value ∧ next value = .ok last := by
  cases result <;> simp [bind, Except.bind]

theorem elim_eq_ok {found : Option α} : found.elim (.error fault) .ok = Except.ok value ↔ found = some value := by
  cases found <;> simp

end
end SealedTunnel
