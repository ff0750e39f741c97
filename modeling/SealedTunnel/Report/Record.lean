import SealedTunnel.Connectivity.Probe
import SealedTunnel.Json.Parser
import SealedTunnel.Json.Printer
import SealedTunnel.Report.Basic
import SealedTunnel.Time.Timestamp

/-!
The record of one resolver test, written as an object whose fields stand in a fixed order, and read
from such an object or from an array of their values.
-/
namespace SealedTunnel.Report

open Json (NumberText Piece Written)
open Time (Timestamp)

/-- The failure of a test. A part that is empty is not written. -/
structure RecordedFailure where
  stage : String
  posixName : String
  message : String
  deriving DecidableEq, Repr

structure TestRecord where
  proxy : String
  resolver : String
  protocol : String
  /-- What salts begin with, a character for each byte. -/
  saltLead : String
  time : Timestamp
  /-- In milliseconds. -/
  duration : Nat
  failure : Option RecordedFailure
  deriving DecidableEq, Repr

namespace RecordedFailure

def ofFailure (failure : Connectivity.Failure) : RecordedFailure :=
  ⟨failure.stage.text, failure.posixName, failure.error.message⟩

def none : RecordedFailure := ⟨"", "", ""⟩

def document (failure : RecordedFailure) : Json :=
  .object ([("op", failure.stage), ("posix_error", failure.posixName), ("msg", failure.message)].filterMap fun
    | (name, text) => if text.isEmpty then Option.none else some (name, Json.string text))

end RecordedFailure

namespace TestRecord

def longestDuration : Nat := UInt64.size - 1

def ofTest (proxy resolver protocol saltLead : String) (started : Timestamp) (duration : Duration)
    (failure : Option Connectivity.Failure) : TestRecord :=
  ⟨proxy, resolver, protocol, saltLead, started.truncated, min duration.millis longestDuration,
    failure.map RecordedFailure.ofFailure⟩

def document (record : TestRecord) : Json :=
  .object [("proxy", .string record.proxy), ("resolver", .string record.resolver), ("proto", .string record.protocol),
    ("prefix", .string record.saltLead), ("time", .string record.time.text), ("duration_ms", .integer record.duration),
    ("error", (record.failure.map RecordedFailure.document).getD .null)]

def text (record : TestRecord) : String := record.document.text

def isSuccess (record : TestRecord) : Bool := record.failure.isNone

def toReport (record : TestRecord) : Report := ⟨.ok record.text, some record.isSuccess⟩

end TestRecord

def readText : Written → Option String
  | .string pieces => Json.piecesText? pieces
  | _ => none

def readTime (value : Written) : Option Timestamp := (readText value).bind Timestamp.parse?

def readCount : Written → Option Nat
  | .number ⟨false, whole, none, none⟩ =>
    let number := Text.numberOf 10 whole
    if number ≤ TestRecord.longestDuration then some number else none
  | _ => none

/-- The fields by name. Each known name may occur once; what others hold does not matter. -/
def readNamed (known : List String) : List (List Piece × Written) → Option (List (String × Written))
  | [] => some []
  | (name, value) :: rest => do
    let name ← Json.piecesText? name
    let others ← readNamed known rest
    if !known.contains name then some others
    else if (others.lookup name).isSome then none
    else some ((name, value) :: others)

def failureNames : List String := ["op", "posix_error", "msg"]

def readPart : Option Written → Option String
  | none => some ""
  | some value => readText value

def readFailure : Written → Option RecordedFailure
  | .object fields => do
    let named ← readNamed failureNames fields
    return ⟨← readPart (named.lookup "op"), ← readPart (named.lookup "posix_error"), ← readPart (named.lookup "msg")⟩
  | .array items =>
    if items.length > failureNames.length then none
    else do return ⟨← readPart items[0]?, ← readPart items[1]?, ← readPart items[2]?⟩
  | _ => none

def readOutcome : Written → Option (Option RecordedFailure)
  | .null => some none
  | value => (readFailure value).map some

def recordNames : List String := ["proxy", "resolver", "proto", "prefix", "time", "duration_ms", "error"]

def readRecord : Written → Option TestRecord
  | .object fields => do
    let named ← readNamed recordNames fields
    let text (name : String) : Option String := (named.lookup name).bind readText
    return ⟨← text "proxy", ← text "resolver", ← text "proto", ← text "prefix", ← (named.lookup "time").bind readTime,
      ← (named.lookup "duration_ms").bind readCount, ← readOutcome ((named.lookup "error").getD .null)⟩
  | .array [proxy, resolver, protocol, saltLead, time, duration, failure] => do
    return ⟨← readText proxy, ← readText resolver, ← readText protocol, ← readText saltLead, ← readTime time,
      ← readCount duration, ← readOutcome failure⟩
  | _ => none

def TestRecord.parse? (text : String) : Option TestRecord := (Written.parse? text).bind readRecord

/-- The stage that a document names: its name, or that name with a null. -/
def parseStage? (text : String) : Option Connectivity.Stage := do
  match ← Written.parse? text with
  | .string pieces => Connectivity.Stage.ofText? (← Json.piecesText? pieces)
  | .object [(name, .null)] => Connectivity.Stage.ofText? (← Json.piecesText? name)
  | _ => none

end SealedTunnel.Report
