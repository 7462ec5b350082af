import Findings.Proofs.Ingest.Calls

/-!
Contract: what a host answers to the calls of a run, and how the run counts it.

Owns:
- `Sink.answers`, the answers to the issues among calls made one after another;
- the law that a run counts each of these answers once, as an issue that was
  applied or as one that was rejected.

Does not own: what a host answers.
-/

namespace Findings

variable {σ η : Type}

/-! ## Answers -/

def Answer.isAccepted : Answer → Bool
  | .accepted => true
  | .declined | .refused _ => false

/-- The answers to the issues among calls, one after another. -/
def Sink.answers (sink : Sink σ η) : σ → List (Call η) → List Answer
  | _, [] => []
  | state, .saveMeasure file metric value :: calls =>
    sink.answers (sink.saveMeasure state file metric value) calls
  | state, .addIssue file issue :: calls =>
    let (answer, next) := sink.addIssue state file issue
    answer :: sink.answers next calls

/-- The number of issues that were applied, or of those that were rejected. -/
def Summary.answered (summary : Summary) (applied : Bool) : Nat :=
  if applied then summary.issuesApplied else summary.issuesRejected

namespace Sink

variable {sink : Sink σ η} {state : σ}

theorem answers_append (first second : List (Call η)) :
    sink.answers state (first ++ second)
      = sink.answers state first ++ sink.answers (sink.replay state first) second := by
  induction first generalizing state with
  | nil => rfl
  | cons call calls inductionHypothesis =>
      cases call with
      | saveMeasure file metric value => exact inductionHypothesis
      | addIssue file issue => exact congrArg (_ :: ·) inductionHypothesis

theorem answers_cons (call : Call η) (calls : List (Call η)) :
    sink.answers state (call :: calls)
      = sink.answers state [call] ++ sink.answers (sink.perform state call) calls :=
  answers_append [call] calls

end Sink

/-! ## Counting -/

namespace Progress

variable {sink : Sink σ η} {repository path file : String} {handle : η}
  {registry : FileRegistry η} {earlier reports : List FileReport} {report : FileReport}
  {violations : List Violation} {progress : Progress σ} {applied : Bool}

/-- An issue is counted by the answer to it. -/
theorem answered_submit {violation : Violation} :
    (submit sink repository path handle progress violation).summary.answered applied
      = progress.summary.answered applied
        + (sink.answers progress.sink
            [.addIssue handle (violation.toIssue repository)]).countP
              (·.isAccepted == applied) := by
  simp only [submit, Sink.answers]
  cases (sink.addIssue progress.sink handle (violation.toIssue repository)).1 <;>
    cases applied <;> simp [Summary.answered, Answer.isAccepted]

theorem answered_foldl_submit :
    (violations.foldl (submit sink repository path handle) progress).summary.answered applied
      = progress.summary.answered applied
        + (sink.answers progress.sink
            (violations.map fun violation =>
              .addIssue handle (violation.toIssue repository))).countP
              (·.isAccepted == applied) := by
  induction violations generalizing progress with
  | nil => rfl
  | cons violation violations inductionHypothesis =>
      rw [List.foldl_cons, inductionHypothesis, answered_submit, submit_sink, List.map_cons,
        Sink.answers_cons _ (violations.map _), List.countP_append, Nat.add_assoc]

/-- Measures are not answered. -/
theorem answered_measure :
    (measure sink file handle progress report).summary.answered applied
      = progress.summary.answered applied := by
  unfold measure
  split <;> cases applied <;> rfl

theorem answered_take (remembers : progress.Remembers registry earlier) :
    (take sink repository registry progress report).summary.answered applied
      = progress.summary.answered applied
        + (sink.answers progress.sink (report.calls repository registry earlier)).countP
            (·.isAccepted == applied) := by
  unfold take FileReport.calls
  rw [FileRegistry.lookup_eq]
  cases found : registry.get? report.path with
  | none => cases applied <;> rfl
  | some handle =>
      have known := remembers report (by simp [found])
      simp only [Option.map_some]
      rw [answered_foldl_submit, answered_measure, measure_sink, Sink.answers_append,
        List.countP_append]
      have same : (if normalizePath report.path ∈ progress.measured then []
            else [Call.saveMeasure handle Metric.linesOfCode report.linesOfCode])
          = if report.file ∈ earlier.map FileReport.file then []
            else [Call.saveMeasure handle Metric.linesOfCode report.linesOfCode] :=
        ite_congr (propext known) (fun _ => rfl) (fun _ => rfl)
      have silent : (sink.answers progress.sink
          (if report.file ∈ earlier.map FileReport.file then []
            else [Call.saveMeasure handle Metric.linesOfCode report.linesOfCode])).countP
              (·.isAccepted == applied) = 0 := by
        split <;> rfl
      rw [silent, same, Nat.zero_add]
      cases applied <;> rfl

theorem answered_foldl_take (remembers : progress.Remembers registry earlier) :
    (reports.foldl (take sink repository registry) progress).summary.answered applied
      = progress.summary.answered applied
        + (sink.answers progress.sink
            (callsAfter repository registry earlier reports)).countP
              (·.isAccepted == applied) := by
  induction reports generalizing progress earlier with
  | nil => rfl
  | cons report more inductionHypothesis =>
      rw [List.foldl_cons, inductionHypothesis (take_remembers remembers),
        answered_take remembers, take_sink remembers, callsAfter, Sink.answers_append,
        List.countP_append, Nat.add_assoc]

end Progress

/-- A run counts each answer once. -/
theorem answered_ingest
    {sink : Sink σ η}
    {repository : String}
    {registry : FileRegistry η}
    {reports : List FileReport}
    {state : σ}
    {applied : Bool} :
    (ingest sink repository registry reports state).summary.answered applied
      = (sink.answers state (callsFor repository registry reports)).countP
          (·.isAccepted == applied) := by
  let start : Progress σ := ⟨state, .start reports.length, [], []⟩
  have remembers : start.Remembers registry [] := by
    simp [start, Progress.Remembers]
  have nothing : start.summary.answered applied = 0 := by
    cases applied <;> rfl
  calc
    _ = (reports.foldl (Progress.take sink repository registry) start).summary.answered
          applied := rfl
    _ = _ := Progress.answered_foldl_take remembers
    _ = _ := by rw [nothing, Nat.zero_add]; rfl

end Findings
