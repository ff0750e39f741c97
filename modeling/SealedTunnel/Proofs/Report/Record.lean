import SealedTunnel.Report.Record
import SealedTunnel.Proofs.Json.Reading
import SealedTunnel.Proofs.Time.Timestamp

namespace SealedTunnel

namespace Json

theorem haveExact_of : ∀ {fields : List (String × Json)}, (∀ field ∈ fields, field.2.isExact = true) →
    haveExact fields = true
  | [], _ => rfl
  | (_, _) :: _, exact =>
      Bool.and_eq_true_iff.mpr ⟨exact _ List.mem_cons_self, haveExact_of fun field member => exact field (.tail _ member)⟩

end Json

namespace Report

open Json (Written)
open Time (Timestamp)

def named (fields : List (String × Json)) : List (String × Written) := fields.map fun (name, value) => (name, value.written)

theorem readText_written (text : String) : readText (Json.string text).written = some text := by
  rw [Json.written, readText, Json.piecesText?_char]

section Fields

theorem lookup_named_none {name : String} {fields : List (String × Json)} (absent : name ∉ fields.map Prod.fst) :
    (named fields).lookup name = none := by
  rw [List.lookup_eq_none_iff]
  intro field member
  obtain ⟨origin, inside, rfl⟩ := List.mem_map.mp member
  exact bne_iff_ne.mpr fun same => absent (same ▸ List.mem_map_of_mem inside)

theorem readNamed_written {known : List String} (fields : List (String × Json)) (once : (fields.map Prod.fst).Nodup)
    (all : ∀ field ∈ fields, field.1 ∈ known) : readNamed known (Json.writtenFields fields) = some (named fields) := by
  induction fields with
  | nil => rfl
  | cons field others ih =>
      obtain ⟨name, value⟩ := field
      obtain ⟨new, once⟩ := List.nodup_cons.mp once
      obtain ⟨here, later⟩ := List.forall_mem_cons.mp all
      have single : (named others).lookup name = none := lookup_named_none new
      have other : known.contains name = true := List.contains_iff_mem.mpr here
      simp only [Json.writtenFields, readNamed, Json.piecesText?_char, ih once later, Option.bind_eq_bind, Option.bind_some,
        other, single]
      rfl

end Fields

section Failures

def keptPart (part : String × String) : Option (String × Json) :=
  if part.2.isEmpty then none else some (part.1, .string part.2)

def RecordedFailure.parts (failure : RecordedFailure) : List (String × String) :=
  [("op", failure.stage), ("posix_error", failure.posixName), ("msg", failure.message)]

theorem RecordedFailure.document_eq (failure : RecordedFailure) :
    failure.document = .object (failure.parts.filterMap keptPart) := rfl

theorem keptPart_eq_some {part : String × String} {field : String × Json} (kept : keptPart part = some field) :
    field = (part.1, .string part.2) := by
  rw [keptPart] at kept
  split at kept
  · cases kept
  · exact (Option.some.inj kept).symm

theorem keptPart_eq_none {part : String × String} (dropped : keptPart part = none) : part.2 = "" := by
  rw [keptPart] at dropped
  split at dropped
  · next empty => exact String.isEmpty_iff.mp empty
  · cases dropped

theorem mem_keptParts {parts : List (String × String)} {field : String × Json} (member : field ∈ parts.filterMap keptPart) :
    ∃ part ∈ parts, field = (part.1, .string part.2) := by
  obtain ⟨part, inside, kept⟩ := List.mem_filterMap.mp member
  exact ⟨part, inside, keptPart_eq_some kept⟩

theorem names_keptParts (parts : List (String × String)) :
    ((parts.filterMap keptPart).map Prod.fst).Sublist (parts.map Prod.fst) := by
  induction parts with
  | nil => exact .slnil
  | cons part others ih =>
      cases kept : keptPart part with
      | none =>
          rw [List.filterMap_cons_none kept]
          exact ih.cons _
      | some field =>
          rw [List.filterMap_cons_some kept, keptPart_eq_some kept]
          exact ih.cons_cons _

theorem readPart_keptParts (name : String) (parts : List (String × String)) (once : (parts.map Prod.fst).Nodup) :
    readPart ((named (parts.filterMap keptPart)).lookup name) = some ((parts.lookup name).getD "") := by
  induction parts with
  | nil => rfl
  | cons part others ih =>
      obtain ⟨label, text⟩ := part
      obtain ⟨new, once⟩ := List.nodup_cons.mp once
      have left : label ∉ (others.filterMap keptPart).map Prod.fst := fun member =>
        new ((names_keptParts others).subset member)
      cases kept : keptPart (label, text) with
      | none =>
          rw [List.filterMap_cons_none kept]
          by_cases same : name = label
          · subst same
            have empty : text = "" := keptPart_eq_none kept
            rw [lookup_named_none left, List.lookup_cons_self, Option.getD_some, empty]
            rfl
          · rw [ih once, List.lookup_cons, beq_false_of_ne same]
      | some field =>
          rw [List.filterMap_cons_some kept, keptPart_eq_some kept, named, List.map_cons, ← named]
          by_cases same : name = label
          · subst same
            rw [List.lookup_cons_self, List.lookup_cons_self, Option.getD_some]
            exact readText_written text
          · rw [List.lookup_cons, List.lookup_cons, beq_false_of_ne same]
            exact ih once

theorem readFailure_document (failure : RecordedFailure) : readFailure failure.document.written = some failure := by
  have names : failure.parts.map Prod.fst = failureNames := rfl
  have once : (failure.parts.map Prod.fst).Nodup := by
    rw [names]
    decide
  have known : ∀ field ∈ failure.parts.filterMap keptPart, field.1 ∈ failureNames := by
    intro field member
    rw [← names]
    exact (names_keptParts failure.parts).subset (List.mem_map_of_mem member)
  have read := readNamed_written _ ((names_keptParts failure.parts).nodup once) known
  rw [RecordedFailure.document_eq, Json.written, readFailure, read]
  simp only [Option.bind_eq_bind, Option.bind_some, readPart_keptParts _ _ once]
  rfl

/-- A failure stays one, whatever is left of it. -/
theorem readOutcome_document (failure : Option RecordedFailure) :
    readOutcome ((failure.map RecordedFailure.document).getD .null).written = some failure := by
  cases failure with
  | none => rfl
  | some failure =>
      have read := readFailure_document failure
      rw [RecordedFailure.document_eq, Json.written] at read
      rw [Option.map_some, Option.getD_some, RecordedFailure.document_eq, Json.written, readOutcome, read]
      · rfl
      · intro same
        cases same

theorem RecordedFailure.isExact_document (failure : RecordedFailure) : failure.document.isExact = true := by
  rw [document_eq]
  refine Json.haveExact_of fun field member => ?_
  obtain ⟨part, inside, rfl⟩ := mem_keptParts member
  rfl

end Failures

namespace TestRecord

theorem readCount_written {number : Nat} (counted : number ≤ longestDuration) :
    readCount (Json.integer number).written = some number := by
  have positive : decide ((number : Int) < 0) = false := by simp
  rw [Json.written, Int.natAbs_natCast, positive, readCount, Text.numberOf_toDigits (by decide) (by decide),
    if_pos counted]

def fields (record : TestRecord) : List (String × Json) :=
  [("proxy", .string record.proxy), ("resolver", .string record.resolver), ("proto", .string record.protocol),
    ("prefix", .string record.saltLead), ("time", .string record.time.text), ("duration_ms", .integer record.duration),
    ("error", (record.failure.map RecordedFailure.document).getD .null)]

theorem document_eq (record : TestRecord) : record.document = .object record.fields := rfl

theorem isExact_document (record : TestRecord) : record.document.isExact = true := by
  have outcome : ((record.failure.map RecordedFailure.document).getD .null).isExact = true := by
    cases record.failure with
    | none => rfl
    | some failure => exact failure.isExact_document
  rw [document_eq]
  refine Json.haveExact_of fun field member => ?_
  simp only [fields, List.mem_cons, List.not_mem_nil, or_false] at member
  rcases member with rfl | rfl | rfl | rfl | rfl | rfl | rfl
  case inr.inr.inr.inr.inr.inr => exact outcome
  all_goals rfl

theorem readRecord_document {record : TestRecord} (counted : record.duration ≤ longestDuration)
    (dated : Timestamp.parse? record.time.text = some record.time) : readRecord record.document.written = some record := by
  have names : record.fields.map Prod.fst = recordNames := rfl
  have read : readNamed recordNames (Json.writtenFields record.fields) = some (named record.fields) := by
    refine readNamed_written record.fields (names ▸ by decide) fun field member => ?_
    exact names ▸ List.mem_map_of_mem member
  have time : readTime (Json.string record.time.text).written = some record.time := by
    rw [readTime, readText_written, Option.bind_some, dated]
  rw [document_eq, Json.written, readRecord, read]
  simp [named, fields, List.lookup_cons, readText_written, time, readCount_written counted, readOutcome_document]

/-- A record of a whole second of the years from 0 to 9999 is read back from its report, with the same success or the same
failure: parts of it that are empty stay empty, and if all of them are it is a failure all the same. -/
theorem parse?_report (record : TestRecord) (counted : record.duration ≤ longestDuration) (whole : record.time.nanos = 0)
    (first : 0 ≤ record.time.date.year) (last : record.time.date.year ≤ 9999) :
    ∃ document, record.toReport.document = .ok document ∧ TestRecord.parse? document = some record ∧
      ∀ read, TestRecord.parse? document = some read →
        read.toReport.isSuccess = record.toReport.isSuccess ∧ read.failure = record.failure := by
  have same : TestRecord.parse? record.text = some record := by
    rw [TestRecord.parse?, text, Json.parse?_text _ record.isExact_document, Option.bind_some]
    exact readRecord_document counted (Timestamp.parse?_text whole first last)
  refine ⟨record.text, rfl, same, ?_⟩
  intro read parsed
  cases Option.some.inj (parsed.symm.trans same)
  exact ⟨rfl, rfl⟩

theorem parse?_report_empty_failure :
    let record : TestRecord := ⟨"1.2.3.4:8388", "[::1]:53", "udp", "a\"\\\n\x00\x1f\x7fé😀", ⟨253402300799, 0⟩,
      longestDuration, some ⟨"", "", ""⟩⟩
    ∃ document, record.toReport.document = .ok document ∧ TestRecord.parse? document = some record ∧
      ∀ read, TestRecord.parse? document = some read →
        read.toReport.isSuccess = some false ∧ read.failure = some RecordedFailure.none :=
  parse?_report _ (Nat.le_refl _) rfl (by decide) (by decide)

end TestRecord

end Report

end SealedTunnel
