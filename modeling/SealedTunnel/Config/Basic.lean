import SealedTunnel.Decimal.Shortest
import SealedTunnel.Duration
import SealedTunnel.Url.Parser

namespace SealedTunnel

open Decimal (Binary64)

structure UploadSettings where
  collectorUrl : String
  /-- How many of the reports of successes are uploaded; one in ten, as a rule. -/
  successFraction : Binary64 := ⟨0x3fb999999999999a⟩
  failureFraction : Binary64 := .one
  /-- How often a failed upload is tried again. -/
  maxRetry : UInt32 := 10
  /-- In milliseconds. -/
  initialDelay : UInt64 := 1000
  deriving DecidableEq, Repr

structure Config where
  accessKey : String := ""
  domain : String := "example.com."
  resolvers : List String := ["8.8.8.8", "2001:4860:4860::8888"]
  protocols : List String := ["tcp", "udp"]
  /-- The time that each test may take, in milliseconds. -/
  timeout : UInt64 := 5000
  upload : Option UploadSettings := none
  deriving DecidableEq, Repr

inductive SettingsFault
  | noAccessKey
  | noDomain
  | noResolver
  | noProtocol
  | unknownProtocol (name : String)
  | noTime
  | collectorUrl (cause : UrlFault)
  | notAFraction (name : String) (value : Binary64)
  deriving DecidableEq, Repr

def SettingsFault.message : SettingsFault → String
  | noAccessKey => "access_key cannot be empty"
  | noDomain => "domain cannot be empty"
  | noResolver => "at least one resolver must be configured"
  | noProtocol => "at least one protocol must be configured"
  | unknownProtocol name => "invalid proto " ++ Text.quoted name ++ ", must be \"tcp\" or \"udp\""
  | noTime => "timeout_ms must be positive"
  | collectorUrl cause => "invalid collector_url: " ++ cause.message
  | notAFraction name value => name ++ " must be between 0 and 1, got " ++ value.plainText

inductive Transport
  | tcp
  | udp
  deriving DecidableEq, Repr

namespace Transport

def name : Transport → String
  | tcp => "tcp"
  | udp => "udp"

def ofName? (name : String) : Option Transport := [tcp, udp].find? (·.name = name)

end Transport

namespace UploadSettings

def delay (settings : UploadSettings) : Duration := .ofMillis settings.initialDelay.toNat

def checkFraction (name : String) (value : Binary64) : Except SettingsFault Unit :=
  if Binary64.zero.le value ∧ value.le .one then .ok () else .error (.notAFraction name value)

def validate (settings : UploadSettings) : Except SettingsFault Unit := do
  let _ ← (Url.parse settings.collectorUrl).mapError .collectorUrl
  checkFraction "success_fraction" settings.successFraction
  checkFraction "failure_fraction" settings.failureFraction

/-- Equal settings, with fractions compared as numbers. -/
def agrees (a b : UploadSettings) : Bool :=
  a.successFraction.same b.successFraction && a.failureFraction.same b.failureFraction &&
    { a with successFraction := b.successFraction, failureFraction := b.failureFraction } = b

end UploadSettings

namespace Config

def limit (config : Config) : Duration := .ofMillis config.timeout.toNat

def validate (config : Config) : Except SettingsFault Unit := do
  if config.accessKey.isEmpty then throw .noAccessKey
  if config.domain.isEmpty then throw .noDomain
  if config.resolvers.isEmpty then throw .noResolver
  if config.protocols.isEmpty then throw .noProtocol
  if let some name := config.protocols.find? fun name => (Transport.ofName? name).isNone then
    throw (.unknownProtocol name)
  if config.timeout = 0 then throw .noTime
  if let some upload := config.upload then upload.validate

def agrees (a b : Config) : Bool :=
  { a with upload := b.upload } = b &&
    match a.upload, b.upload with
    | none, none => true
    | some first, some second => first.agrees second
    | _, _ => false

end Config
end SealedTunnel
