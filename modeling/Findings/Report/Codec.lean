import Findings.Json.Record
import Findings.Json.Value
import Findings.Report.Basic
import Findings.Text.Blank

/-!
Contract: reports as JSON.

Owns:
- the names of the members and which of them may be left out;
- `FileReport.decodeAll`, which reads the whole output of an analyzer: a list
  of reports, or null for none;
- `FileReport.encodeAll`, which writes a list of reports in compact form.

A text of white space alone is an empty report, whatever white space it is;
inside a report only the white space of JSON counts.
-/

namespace Findings

open Json

/-! ## Fields -/

def textField {α : Type} (name : String) (put : String → α → α) : RecordField α where
  name := name
  presence := .required
  read := put <$> string "a string"

def numberField {α : Type} (name : String) (put : Int64 → α → α) : RecordField α where
  name := name
  presence := .required
  read := (fun value => put (Int64.ofInt value))
    <$> integer Int64.minValue.toInt Int64.maxValue.toInt "i64"

def Violation.shape : Shape Violation where
  name := "Violation"
  blank := ⟨"", "", 0⟩
  fields := [
    textField "Type" fun value violation => { violation with ruleType := value },
    textField "Description" fun value violation => { violation with description := value },
    numberField "SrcLine" fun value violation => { violation with sourceLine := value }]

/-- A report as a record.  Its violations may be left out or null. -/
def FileReport.shape (bound : Nat) : Shape FileReport where
  name := "FileViolationReport"
  blank := ⟨"", 0, 0, []⟩
  fields := [
    textField "FilePath" fun value report => { report with path := value },
    numberField "LinesOfCode" fun value report => { report with linesOfCode := value },
    numberField "LinesOfComments" fun value report => { report with linesOfComments := value },
    { name := "Violations"
      presence := .optional
      read := (fun value report => { report with violations := value.getD [] })
        <$> nullable (list (record Violation.shape bound) bound) }]

/-! ## Reading -/

/-- Why the output of an analyzer is no list of reports. -/
inductive ReportError where
  /-- There is nothing but white space. -/
  | empty
  | malformed (refusal : Refusal)
deriving DecidableEq, Repr

def ReportError.message : ReportError → String
  | .empty => "Analyzer produced an empty report"
  | .malformed refusal => "Malformed analyzer report: " ++ refusal.message

/-- Reads a list of reports, or null for an empty one. -/
def FileReport.listReader (bound : Nat) : Reader (List FileReport) := do
  return (← nullable (list (record (FileReport.shape bound) bound) bound)).getD []

/-- The reports in the output of an analyzer. -/
def FileReport.decodeAll (text : String) : Except ReportError (List FileReport) :=
  let chars := text.toList
  if chars.all Text.isBlank then
    .error .empty
  else
    match document (listReader chars.length) chars with
    | .ok reports => .ok reports
    | .error fault => .error (.malformed (fault.toRefusal chars))

def FileReport.decode (text : String) : Except Refusal FileReport :=
  let chars := text.toList
  (document (record (shape chars.length) chars.length) chars).mapError (·.toRefusal chars)

def Violation.decode (text : String) : Except Refusal Violation :=
  let chars := text.toList
  (document (record shape chars.length) chars).mapError (·.toRefusal chars)

/-! ## Writing -/

def Violation.toJson (violation : Violation) : Value :=
  .object [
    ("Type", .text violation.ruleType),
    ("Description", .text violation.description),
    ("SrcLine", .integer violation.sourceLine.toInt)]

/-- A report as a JSON value; its violations are always written. -/
def FileReport.toJson (report : FileReport) : Value :=
  .object [
    ("FilePath", .text report.path),
    ("LinesOfCode", .integer report.linesOfCode.toInt),
    ("LinesOfComments", .integer report.linesOfComments.toInt),
    ("Violations", .list (report.violations.map Violation.toJson))]

def FileReport.encodeAll (reports : List FileReport) : String :=
  (Value.list (reports.map toJson)).compactText

end Findings
