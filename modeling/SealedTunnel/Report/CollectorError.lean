import SealedTunnel.Error

namespace SealedTunnel.Report

inductive CollectorError
  /-- The collector turned the report down; it would do so again. -/
  | badRequest (status : Nat)
  | serverError (status : Nat)
  /-- There was no answer. -/
  | http (reason : String)
  /-- The report has no document. -/
  | serialize (reason : String)
  | io (error : IoError)
  | maxRetryExceeded
  /-- What each of the alternatives failed with, in their order. -/
  | allFailed (errors : List CollectorError)
  deriving Repr

namespace CollectorError

def isBadRequest : CollectorError → Bool
  | badRequest _ => true
  | _ => false

def message : CollectorError → String
  | badRequest status => s!"http request failed with status code {status}"
  | serverError status => s!"collector server error with status code {status}"
  | http reason => "http request failed: " ++ reason
  | serialize reason => "failed to marshal JSON: " ++ reason
  | io error => "failed to write report: " ++ error.message
  | maxRetryExceeded => "max retry exceeded"
  | allFailed _ => "all collectors failed"

end CollectorError
end SealedTunnel.Report
