import Findings.Bundle.Error
import Findings.Process.Basic
import Findings.Report.Codec

/-!
Contract: why a pass fails.

Owns: the errors of the stages seen as errors of the pass, with their wording.
-/

namespace Findings

/-- Why a pass fails. -/
inductive PassError where
  | extraction (error : ExtractionError)
  | process (error : ProcessError)
  | report (error : ReportError)
  /-- A stage broke down without an error of its own. -/
  | stage (name wording : String)
deriving DecidableEq, Repr

def PassError.message : PassError → String
  | extraction error => "Extraction failed: " ++ error.message
  | process error => "Analysis failed: " ++ error.message
  | report error => "Report decoding failed: " ++ error.message
  | stage name wording => "Stage '" ++ name ++ "' task failed: " ++ wording

end Findings
