import Findings.Issue.Basic
import Findings.Registry.Basic

/-!
Contract: what a host does with findings.

Owns:
- `Sink`, the two calls that hand findings over, on a host in any state;
- `Answer`, what the host says to an issue;
- `Host`, a sink that can list its files;
- `Call`, a call as a value, and `Sink.traced`, which keeps the calls.

No law is asked of a host: it may answer as it likes.
-/

namespace Findings

/-- What a host says to an issue. -/
inductive Answer where
  | accepted
  /-- Not taken, and not because of a fault. -/
  | declined
  | refused (reason : String)
deriving DecidableEq, Repr

def refusalMessage (reason : String) : String :=
  "Issue rejected by host: " ++ reason

/-- A host in a state of type `σ` that takes findings for handles of type
`η`. -/
structure Sink (σ η : Type) where
  saveMeasure : σ → η → Metric → Int64 → σ
  addIssue : σ → η → NewIssue → Answer × σ

/-- A host that also lists the files of a language. -/
structure Host (σ η : Type) extends Sink σ η where
  sourceFiles : σ → String → List (TrackedFile η)

/-! ## Calls -/

inductive Call (η : Type) where
  | saveMeasure (file : η) (metric : Metric) (value : Int64)
  | addIssue (file : η) (issue : NewIssue)
deriving DecidableEq, Repr

/-- A sink that also keeps the calls made to it. -/
def Sink.traced {σ η : Type} (sink : Sink σ η) : Sink (σ × List (Call η)) η where
  saveMeasure state file metric value :=
    (sink.saveMeasure state.1 file metric value, state.2 ++ [.saveMeasure file metric value])
  addIssue state file issue :=
    let (answer, next) := sink.addIssue state.1 file issue
    (answer, next, state.2 ++ [.addIssue file issue])

end Findings
