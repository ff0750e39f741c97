import SealedTunnel.Config.Basic
import SealedTunnel.Toml.Printer

/-! Settings as documents. What a document leaves out is as usual; names that it should not have do not matter. -/
namespace SealedTunnel

open Decimal (Binary64)

namespace Toml

def text? : Toml → Option String
  | .string text => some text
  | _ => none

def texts? : Toml → Option (List String)
  | .array items => items.mapM text?
  | _ => none

def count? (bound : Nat) : Toml → Option Nat
  | .integer value => if 0 ≤ value ∧ value < bound then some value.toNat else none
  | _ => none

def number? : Toml → Option Binary64
  | .float value => some value
  | .integer value => some (.ofInt value)
  | _ => none

def fieldOr {α : Type} (usual : α) (read : Toml → Option α) : Option Toml → Option α
  | none => some usual
  | some value => read value

def word? (value : Toml) : Option UInt64 := (value.count? UInt64.size).map UInt64.ofNat

end Toml

open Toml (fieldOr)

namespace UploadSettings

def fieldNames : List String := ["collector_url", "success_fraction", "failure_fraction", "max_retry", "initial_delay_ms"]

def ofFields? (fields : List (String × Toml)) : Option UploadSettings := do
  let usual : UploadSettings := { collectorUrl := ← (← fields.lookup "collector_url").text? }
  return { usual with
    successFraction := ← fieldOr usual.successFraction Toml.number? (fields.lookup "success_fraction")
    failureFraction := ← fieldOr usual.failureFraction Toml.number? (fields.lookup "failure_fraction")
    maxRetry := ← fieldOr usual.maxRetry (fun value => (value.count? UInt32.size).map UInt32.ofNat) (fields.lookup "max_retry")
    initialDelay := ← fieldOr usual.initialDelay Toml.word? (fields.lookup "initial_delay_ms") }

/-- Settings as a table, or as an array of the values that it would have. -/
def ofToml? : Toml → Option UploadSettings
  | .table fields => ofFields? fields
  | .array items => ofFields? (fieldNames.zip items)
  | _ => none

def toToml? (settings : UploadSettings) : Option Toml := do
  return .table (fieldNames.zip [.string settings.collectorUrl, .float settings.successFraction,
    .float settings.failureFraction, .integer settings.maxRetry.toNat, ← Toml.integer? settings.initialDelay.toNat])

end UploadSettings

namespace Config

def ofFields? (fields : List (String × Toml)) : Option Config := do
  let usual : Config := {}
  return {
    accessKey := ← fieldOr usual.accessKey Toml.text? (fields.lookup "access_key")
    domain := ← fieldOr usual.domain Toml.text? (fields.lookup "domain")
    resolvers := ← fieldOr usual.resolvers Toml.texts? (fields.lookup "resolvers")
    protocols := ← fieldOr usual.protocols Toml.texts? (fields.lookup "protocols")
    timeout := ← fieldOr usual.timeout Toml.word? (fields.lookup "timeout_ms")
    upload := ← (fields.lookup "report").mapM UploadSettings.ofToml? }

def parse (text : String) : Except Fault Config :=
  match Toml.parse? text with
  | some (.table fields) => (ofFields? fields).elim (.error (.config .malformedFile)) .ok
  | _ => .error (.config .malformedFile)

/-- Settings as they are written. A number that is too large for a document cannot be. -/
def text? (config : Config) : Option String := do
  let report ← config.upload.mapM UploadSettings.toToml?
  return Toml.documentText ([("access_key", .string config.accessKey), ("domain", .string config.domain),
    ("resolvers", .array (config.resolvers.map .string)), ("protocols", .array (config.protocols.map .string)),
    ("timeout_ms", ← Toml.integer? config.timeout.toNat)] ++ (report.map (("report", ·))).toList)

def ofFile (path : String) (content : Except IoError String) : Except Fault Config :=
  match content with
  | .error error => .error (.config (.unreadableFile path error.message))
  | .ok text => parse text

end Config
end SealedTunnel
