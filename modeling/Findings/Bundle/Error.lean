import Findings.Bundle.Platform
import Findings.Files.Fault
import Findings.Zip.Fault

/-!
Contract: why no analyzer can be taken from a bundle.

Owns:
- the causes and their wording;
- `ExtractionFailure`, a cause, or an extraction that broke down.
-/

namespace Findings

/-- Why no analyzer can be taken from a bundle. -/
inductive ExtractionError where
  | unsupported (platform : UnsupportedPlatform)
  | notFound (entry bundle : String)
  | archive (fault : Zip.Fault)
  | io (fault : IoFault)
deriving DecidableEq, Repr

def ExtractionError.message : ExtractionError → String
  | unsupported platform =>
    "OS '" ++ platform.osName ++ "' is not supported: no bundled analyzer for key '"
      ++ platform.key ++ "'"
  | notFound entry bundle => "Cannot find file '" ++ entry ++ "' in bundle '" ++ bundle ++ "'"
  | archive fault => "Bundle archive error: " ++ fault.message
  | io fault => "I/O error during extraction: " ++ fault.message

/-- Why no program was extracted. -/
inductive ExtractionFailure where
  | error (cause : ExtractionError)
  /-- The extraction broke down without an error of its own. -/
  | breakdown (wording : String)
deriving DecidableEq, Repr

end Findings
