import SealedTunnel.Bytes
import SealedTunnel.Config.Basic
import SealedTunnel.Report.Collector

namespace SealedTunnel.Report

def contentType : String := "application/json; charset=utf-8"

structure Upload where
  address : String
  contentType : String
  body : Bytes
  deriving DecidableEq, Repr

def ofStatus (status : Nat) : Except CollectorError Unit :=
  if 400 ≤ status ∧ status < 500 then .error (.badRequest status)
  else if 500 ≤ status ∧ status < 600 then .error (.serverError status)
  else .ok ()

/-- Posts a report. `exchange` answers with a status, or says why there is no answer. -/
def post {m : Type → Type} [Monad m] (exchange : Upload → m (Except String Nat)) (address : String) (report : Report) :
    Delivery m :=
  match report.document with
  | .error reason => return .error (.serialize reason)
  | .ok document => do
    let status ← exchange ⟨address, contentType, Bytes.ofText document⟩
    return (status.mapError .http).bind ofStatus

def collectorOf (settings : UploadSettings) : Collector String :=
  .retry settings.maxRetry.toNat settings.delay
    (.sampling settings.successFraction settings.failureFraction (.leaf settings.collectorUrl))

end SealedTunnel.Report
