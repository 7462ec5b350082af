import Findings.Proofs.Json.Record
import Findings.Report.Codec

/-!
Contract: reports that are written are read back.

Owns:
- the two kinds of fields, with every signed number of 64 bits;
- violations and reports, alone and inside lists;
- the whole output of an analyzer.

Does not own: outputs that no list of reports is written as.
-/

namespace Findings

open Json

variable {α : Type} {bound : Nat}

/-! ## Fields -/

theorem reads_textField {name value : String} {put : String → α → α} :
    Reads (textField name put).read (Value.text value).compact (put value) :=
  reads_string.map put

/-- Both ends of the signed numbers of 64 bits are read back. -/
theorem reads_numberField {name : String} {value : Int64} {put : Int64 → α → α} :
    Reads (numberField name put).read (Value.integer value.toInt).compact (put value) := by
  have least := value.minValue_le_toInt
  have greatest := value.toInt_le
  have representable : value.toInt ≤ significandLimit :=
    Int.le_trans greatest (by decide)
  have read : Reads (numberField name put).read (Value.integer value.toInt).compact
      (put (Int64.ofInt value.toInt)) :=
    (reads_integer ⟨least, greatest⟩ ⟨least, representable⟩).map _
  rwa [Int64.ofInt_toInt] at read

/-! ## Violations -/

theorem Violation.fills (violation : Violation) :
    Violation.shape.Fills [] Violation.shape.blank
      [("Type", .text violation.ruleType),
        ("Description", .text violation.description),
        ("SrcLine", .integer violation.sourceLine.toInt)]
      violation :=
  .field rfl (by simp) reads_textField
    (.field rfl (by simp) reads_textField
      (.field rfl (by simp) reads_numberField
        (.done rfl)))

/-- A written violation is read back. -/
theorem Violation.reads_toJson {violation : Violation}
    (fits : violation.toJson.compact.length ≤ bound) :
    Reads (record Violation.shape bound) violation.toJson.compact violation :=
  reads_record violation.fills fits

/-! ## Reports -/

/-- The violations of a written report are read back. -/
theorem FileReport.reads_violations {violations : List Violation}
    (fits : (Value.list (violations.map Violation.toJson)).compact.length ≤ bound) :
    Reads (nullable (list (record Violation.shape bound) bound))
      (Value.list (violations.map Violation.toJson)).compact (some violations) := by
  apply Reads.nullable (by simp)
  apply reads_list fits
  intro violation _ partFits
  exact Violation.reads_toJson partFits

theorem FileReport.fills {report : FileReport}
    (fits : report.toJson.compact.length ≤ bound) :
    (FileReport.shape bound).Fills [] (FileReport.shape bound).blank
      [("FilePath", .text report.path),
        ("LinesOfCode", .integer report.linesOfCode.toInt),
        ("LinesOfComments", .integer report.linesOfComments.toInt),
        ("Violations", .list (report.violations.map Violation.toJson))]
      report := by
  have part : (Value.list (report.violations.map Violation.toJson)).compact.length ≤ bound := by
    refine Nat.le_trans (Value.length_le_object_of_mem (?written : ("Violations", _) ∈ _)) fits
    simp
  exact .field rfl (by simp) reads_textField
    (.field rfl (by simp) reads_numberField
      (.field rfl (by simp) reads_numberField
        (.field rfl (by simp) ((reads_violations part).map _)
          (.done rfl))))

/-- A written report is read back. -/
theorem FileReport.reads_toJson {report : FileReport}
    (fits : report.toJson.compact.length ≤ bound) :
    Reads (record (FileReport.shape bound) bound) report.toJson.compact report :=
  reads_record (fills fits) fits

/-- A written list of reports is read back. -/
theorem FileReport.reads_listReader {reports : List FileReport}
    (fits : (Value.list (reports.map FileReport.toJson)).compact.length ≤ bound) :
    Reads (listReader bound) (Value.list (reports.map FileReport.toJson)).compact reports := by
  have elements : Reads (list (record (shape bound) bound) bound)
      (Value.list (reports.map toJson)).compact reports := by
    apply reads_list fits
    intro report _ partFits
    exact reads_toJson partFits
  exact (elements.nullable (by simp)).map (Option.getD · [])

/-! ## Whole texts -/

theorem Violation.decode_toJson (violation : Violation) :
    decode violation.toJson.compactText = .ok violation := by
  have read := (reads_toJson (Nat.le_refl violation.toJson.compact.length)).document
  rw [decode, Value.toList_compactText, read]
  rfl

theorem FileReport.decode_toJson (report : FileReport) :
    decode report.toJson.compactText = .ok report := by
  have read := (reads_toJson (Nat.le_refl report.toJson.compact.length)).document
  rw [decode, Value.toList_compactText, read]
  rfl

theorem FileReport.decodeAll_encodeAll (reports : List FileReport) :
    decodeAll (encodeAll reports) = .ok reports := by
  have read := (reads_listReader
    (Nat.le_refl (Value.list (reports.map toJson)).compact.length)).document
  have notBlank : (Value.list (reports.map toJson)).compact.all Text.isBlank = false := by
    rw [Value.compact_list]
    rfl
  simp [decodeAll, encodeAll, notBlank, read]

end Findings
