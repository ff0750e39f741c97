import SealedTunnel.Proofs.Json.OneLine
import SealedTunnel.Proofs.Scripted.Sink
import SealedTunnel.Report.LineWriter
import SealedTunnel.Report.Record

namespace SealedTunnel.Report

inductive Reported
  | value (document : Json)
  | test (record : TestRecord)

namespace Reported

def written : Reported → Json
  | value document => document
  | test record => record.document

def toReport : Reported → Report
  | value document => ⟨.ok document.text, none⟩
  | test record => record.toReport

def bytes (reported : Reported) : Bytes := Bytes.ofText reported.written.text

theorem document_toReport (reported : Reported) : reported.toReport.document = .ok reported.written.text := by
  cases reported <;> rfl

end Reported

section Sinks

variable {σ : Type} [ByteSink σ]

def writeLines : List Report → σ → List (Except CollectorError Unit) × σ
  | [], sink => ([], sink)
  | report :: others, sink =>
    let (result, sink) := writeLine report sink
    let (results, last) := writeLines others sink
    (result :: results, last)

variable {good : σ → Prop}

theorem writeLine_accepted (accepts : Behaves (· = .finished) good) (reported : Reported) {recorded : Recorded σ}
    (here : good recorded.sink) :
    ∃ next, writeLine reported.toReport recorded = (.ok (), next) ∧ good next.sink ∧
      next.wire = recorded.wire ++ (reported.bytes ++ [0x0a]) := by
  obtain ⟨moved, wire, split⟩ := drain_moves lineCutShort recorded (line reported.written.text)
  obtain ⟨still, finished⟩ := drain_behaves accepts.recorded rfl lineCutShort recorded (line reported.written.text) here
  have sent := Poll.outcome_eq_finished.mp finished
  have all : ∀ {rest after}, drain lineCutShort recorded (line reported.written.text) = (.ready (.ok ()), rest, after) →
      rest = [] := rest_drain
  simp only [writeLine, reported.document_toReport]
  generalize drain lineCutShort recorded (line reported.written.text) = drained at wire split still sent all
  obtain ⟨answer, rest, sink⟩ := drained
  subst sent
  cases all rfl
  rw [List.append_nil] at split
  subst split
  obtain ⟨after, flushed⟩ := accepts.recorded.flush still (Prod.mk.eta (p := ByteSink.flush sink)).symm
  have done := Poll.outcome_eq_finished.mp flushed
  refine ⟨(ByteSink.flush sink).2, ?_, after, ?_⟩
  · simp [atOnce, done, mapError_ok]
  · exact wire

theorem writeLines_accepted (accepts : Behaves (· = .finished) good) (reports : List Reported) {recorded : Recorded σ}
    (here : good recorded.sink) :
    (writeLines (reports.map Reported.toReport) recorded).1 = List.replicate reports.length (.ok ()) ∧
      (writeLines (reports.map Reported.toReport) recorded).2.wire =
        recorded.wire ++ reports.flatMap fun reported => reported.bytes ++ [0x0a] := by
  induction reports generalizing recorded with
  | nil => exact ⟨rfl, (List.append_nil _).symm⟩
  | cons reported others ih =>
      obtain ⟨next, written, still, wire⟩ := writeLine_accepted accepts reported here
      obtain ⟨results, whole⟩ := ih still
      simp only [List.map_cons, writeLines, written]
      refine ⟨congrArg (Except.ok () :: ·) results, ?_⟩
      rw [whole, wire, List.flatMap_cons, List.append_assoc]

end Sinks

section Cutting

variable {α : Type} (items : List α) (bytes : α → Bytes)

theorem splitOn_lines (lines : ∀ item ∈ items, 0x0a ∉ bytes item) :
    (items.flatMap fun item => bytes item ++ [0x0a]).splitOn 0x0a = items.map bytes ++ [[]] := by
  induction items with
  | nil => exact List.splitOn_nil 0x0a
  | cons item others ih =>
      obtain ⟨here, later⟩ := List.forall_mem_cons.mp lines
      rw [List.flatMap_cons, List.append_assoc, List.singleton_append, List.splitOn_append_cons_self_of_not_mem here,
        ih later, List.map_cons, List.cons_append]

theorem getLast?_lines :
    (items.flatMap fun item => bytes item ++ [0x0a]).getLast? = items.getLast?.map fun _ => 0x0a := by
  rcases List.eq_nil_or_concat items with rfl | ⟨others, item, rfl⟩
  · rfl
  · rw [List.concat_eq_append, List.flatMap_append, List.flatMap_singleton, ← List.append_assoc, List.getLast?_concat,
      List.getLast?_concat, Option.map_some]

end Cutting

section Collecting

variable {σ : Type} [ByteSink σ] {good : σ → Prop}

/-- Reports that are collected one after the other by a sink that accepts everything: each is written, and what the sink
took is their documents, each of them a line. It ends in the end of the last line, and cut at the ends of the lines it is
the documents in their order, with nothing behind them; none is empty, and none goes over two lines. -/
theorem lines_split (accepts : Behaves (· = .finished) good) {sink : σ} (here : good sink) (reports : List Reported) :
    let run := writeLines (reports.map Reported.toReport) (⟨sink, []⟩ : Recorded σ)
    let documents := reports.map Reported.bytes
    run.1 = List.replicate reports.length (.ok ()) ∧
      run.2.wire.getLast? = reports.getLast?.map (fun _ => 0x0a) ∧
      run.2.wire.splitOn 0x0a = documents ++ [[]] ∧
      ∀ document ∈ documents, document ≠ [] ∧ 0x0a ∉ document := by
  intro run documents
  have isLine : ∀ reported ∈ reports, reported.bytes ≠ [] ∧ 0x0a ∉ reported.bytes :=
    fun reported _ => reported.written.text_isLine
  have fresh : good (⟨sink, []⟩ : Recorded σ).sink := here
  obtain ⟨results, wire⟩ := writeLines_accepted accepts reports fresh
  rw [List.nil_append] at wire
  refine ⟨results, ?_, ?_, List.forall_mem_map.mpr isLine⟩
  · rw [wire, getLast?_lines]
  · rw [wire, splitOn_lines reports Reported.bytes fun reported member => (isLine reported member).2]

theorem lines_split_script :
    let document : Json := .object [("a\n", .array [.string "\n\x00\\", .integer (-1), .null])]
    let record : TestRecord := ⟨"p", "r", "udp", "", ⟨0, 0⟩, 5, some ⟨"send", "", "first\nsecond"⟩⟩
    let run := writeLines ([Reported.value document, .test record].map Reported.toReport)
      (⟨.ofScript [] [] [] none, []⟩ : Recorded Scripted.Sink)
    run.2.wire.getLast? = some 0x0a ∧
      run.2.wire.splitOn 0x0a = [Bytes.ofText document.text, Bytes.ofText record.text, []] := by
  intro document record run
  have accepts := Scripted.Sink.behaves_isOpen
  have isOpen : Scripted.Sink.IsOpen (.ofScript [] [] [] none) := ⟨rfl, rfl, rfl, rfl⟩
  obtain ⟨-, ended, cut, -⟩ := lines_split accepts isOpen [.value document, .test record]
  exact ⟨ended, cut⟩

end Collecting

end SealedTunnel.Report
