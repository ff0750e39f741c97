import SealedTunnel.Report.Upload
import SealedTunnel.Text.Percent
import SealedTunnel.Text.Split

namespace SealedTunnel.Report

def pathOf (address : String) : String :=
  let written := address.toList.takeWhile (· ≠ '#')
  let authority := ((Text.splitFirst? ':' written).elim written (·.2)).dropWhile (· = '/')
  let path := authority.dropWhile fun c => c ≠ '/' ∧ c ≠ '?'
  let plain (byte : UInt8) : Bool := 0x21 ≤ byte ∧ byte ≤ 0x7e ∧ byte ≠ 0x22 ∧ byte ≠ 0x3c ∧ byte ≠ 0x3e
  let chars := Text.Percent.encode plain (Bytes.ofText (String.ofList path))
  String.ofList (if chars.head? = some '/' then chars else '/' :: chars)

def Upload.request (upload : Upload) (host : String) : Bytes :=
  let lines := ["POST " ++ pathOf upload.address ++ " HTTP/1.1", "Host: " ++ host, "Content-Type: " ++ upload.contentType,
    s!"Content-Length: {upload.body.length}", "Connection: close", ""]
  Bytes.ofText (String.join (lines.map (· ++ "\r\n"))) ++ upload.body

/-- The status in the first line of an answer, once that line is there. -/
def statusOf? (answer : Bytes) : Option Nat := do
  let line := answer.takeWhile (· ≠ 0x0d)
  if line.length = answer.length then none
  else
    match Text.pieces ' ' (line.map fun byte : UInt8 => Char.ofNat byte.toNat) with
    | _ :: status :: _ => Text.decimal? 999 status
    | _ => none

end SealedTunnel.Report
