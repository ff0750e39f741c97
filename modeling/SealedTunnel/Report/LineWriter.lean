import SealedTunnel.Report.Basic
import SealedTunnel.Report.CollectorError
import SealedTunnel.Stream.Drain

namespace SealedTunnel.Report

def lineCutShort : IoError := .note .writeZero "failed to write whole buffer"

/-- The outcome of a step for one who does not wait. -/
def atOnce : Poll (Except IoError Unit) → Except CollectorError Unit
  | .ready result => result.mapError .io
  | .stalled _ => .error (.io (.bare .wouldBlock))

def line (document : String) : Bytes := Bytes.ofText document ++ [0x0a]

/-- Writes a report as a line, and flushes. What was written before a failure stays written. -/
def writeLine {σ : Type} [ByteSink σ] (report : Report) (sink : σ) : Except CollectorError Unit × σ :=
  match report.document with
  | .error reason => (.error (.serialize reason), sink)
  | .ok document =>
    let (written, _, sink) := drain lineCutShort sink (line document)
    match atOnce written with
    | .error error => (.error error, sink)
    | .ok () =>
      let (flushed, sink) := ByteSink.flush sink
      (atOnce flushed, sink)

end SealedTunnel.Report
