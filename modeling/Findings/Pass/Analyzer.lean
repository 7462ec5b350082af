import Findings.Pass.Basic
import Findings.Process.Launch

/-!
Contract: passes on files, with the analyzers of a bundle.

Owns: the stages that extract from a bundle and run what a launcher starts, for at
most a number of nanoseconds.
-/

namespace Findings

/-- The extraction from a bundle as a stage; the files change only if it
succeeds. -/
def Bundle.extractStage (bundle : Bundle) (osName : String) (world : World) :
    Except ExtractionFailure Binary × World :=
  match bundle.extract osName world with
  | .ok (binary, extracted) => (.ok binary, extracted)
  | .error error => (.error (.error error), world)

/-- The stages of a pass on files, with a limit of nanoseconds. -/
def Bundle.stages (bundle : Bundle) (launcher : Launcher World) (limit : Option Nat) :
    Stages World where
  extractorName := "archive_extractor"
  extract := bundle.extractStage
  run := runAnalyzer launcher limit
  release binary world := world.release binary

end Findings
