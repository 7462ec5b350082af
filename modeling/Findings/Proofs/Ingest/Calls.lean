import Mathlib.Data.List.Basic
import Findings.Ingest.Basic
import Findings.Proofs.Host.Replay

/-!
Contract: the calls that a run makes to a host.

Owns:
- `callsFor`, the calls for a list of reports, read off the reports and the
  registry alone;
- the law that a run makes these calls and no others, whatever the host answers;
- what the calls amount to: the measures, one for each tracked file that is
  reported, and the issues, one for each violation in a tracked file.

Does not own: the counts and the log of a run, which depend on the answers.
-/

namespace Findings

variable {σ η : Type}

/-! ## Calls read off the reports -/

/-- The file that a report is about, as a normalized path. -/
def FileReport.file (report : FileReport) : String :=
  normalizePath report.path

/-- The calls for one report, after the earlier ones of its list. -/
def FileReport.calls
    (repository : String)
    (registry : FileRegistry η)
    (earlier : List FileReport)
    (report : FileReport) :
    List (Call η) :=
  match registry.get? report.path with
  | none => []
  | some handle =>
    (if report.file ∈ earlier.map file then []
      else [.saveMeasure handle .linesOfCode report.linesOfCode])
      ++ report.violations.map fun violation => .addIssue handle (violation.toIssue repository)

/-- The calls for reports that come after earlier ones. -/
def callsAfter
    (repository : String)
    (registry : FileRegistry η)
    (earlier : List FileReport) :
    List FileReport → List (Call η)
  | [] => []
  | report :: more =>
    report.calls repository registry earlier
      ++ callsAfter repository registry (earlier ++ [report]) more

def callsFor
    (repository : String)
    (registry : FileRegistry η)
    (reports : List FileReport) :
    List (Call η) :=
  callsAfter repository registry [] reports

/-! ## What a run remembers -/

theorem FileRegistry.lookup_eq {registry : FileRegistry η} {path : String} :
    registry.lookup path = (registry.get? path).map fun handle => (normalizePath path, handle) :=
  rfl

/-- A run that has taken in the earlier reports remembers, of the tracked files,
those that were reported. -/
def Progress.Remembers
    (registry : FileRegistry η)
    (earlier : List FileReport)
    (progress : Progress σ) :
    Prop :=
  ∀ report : FileReport, registry.get? report.path ≠ none →
    (report.file ∈ progress.measured ↔ report.file ∈ earlier.map FileReport.file)

namespace Progress

variable {sink : Sink σ η} {repository path file : String} {handle : η}
  {registry : FileRegistry η} {earlier reports : List FileReport} {report : FileReport}
  {violations : List Violation} {progress : Progress σ}

theorem submit_sink {violation : Violation} :
    (submit sink repository path handle progress violation).sink
      = sink.perform progress.sink (.addIssue handle (violation.toIssue repository)) := by
  simp only [submit, Sink.perform]
  split <;> rfl

theorem submit_measured {violation : Violation} :
    (submit sink repository path handle progress violation).measured = progress.measured := by
  simp only [submit]
  split <;> rfl

theorem foldl_submit_sink :
    (violations.foldl (submit sink repository path handle) progress).sink
      = sink.replay progress.sink
          (violations.map fun violation => .addIssue handle (violation.toIssue repository)) := by
  induction violations generalizing progress with
  | nil => rfl
  | cons violation violations inductionHypothesis =>
      rw [List.foldl_cons, inductionHypothesis, submit_sink, List.map_cons, Sink.replay_cons]

theorem foldl_submit_measured :
    (violations.foldl (submit sink repository path handle) progress).measured
      = progress.measured := by
  induction violations generalizing progress with
  | nil => rfl
  | cons violation violations inductionHypothesis =>
      rw [List.foldl_cons, inductionHypothesis, submit_measured]

theorem measure_sink :
    (measure sink file handle progress report).sink
      = sink.replay progress.sink
          (if file ∈ progress.measured then []
            else [.saveMeasure handle .linesOfCode report.linesOfCode]) := by
  unfold measure
  split <;> rfl

theorem mem_measure_measured {name : String} :
    name ∈ (measure sink file handle progress report).measured
      ↔ name ∈ progress.measured ∨ name = file := by
  unfold measure
  split
  · rename_i member
    constructor
    · exact Or.inl
    · rintro (held | rfl)
      · exact held
      · exact member
  · simp [or_comm]

/-! ## One report -/

/-- A report makes the calls that are read off it. -/
theorem take_sink (remembers : progress.Remembers registry earlier) :
    (take sink repository registry progress report).sink
      = sink.replay progress.sink (report.calls repository registry earlier) := by
  unfold take FileReport.calls
  rw [FileRegistry.lookup_eq]
  cases found : registry.get? report.path with
  | none => rfl
  | some handle =>
      have known := remembers report (by simp [found])
      simp only [Option.map_some]
      rw [foldl_submit_sink, measure_sink, ← Sink.replay_append]
      congr 2
      exact ite_congr (propext known) (fun _ => rfl) (fun _ => rfl)

/-- After a report its file counts as reported. -/
theorem take_remembers (remembers : progress.Remembers registry earlier) :
    (take sink repository registry progress report).Remembers registry (earlier ++ [report]) := by
  intro other tracked
  have known := remembers other tracked
  unfold take
  rw [FileRegistry.lookup_eq]
  cases found : registry.get? report.path with
  | none =>
      -- An untracked report has another file than every tracked one.
      have apart : other.file ≠ report.file := by
        intro same
        apply tracked
        unfold FileReport.file at same
        rw [FileRegistry.get?, same]
        exact found
      simp [known, apart]
  | some handle =>
      simp only [Option.map_some]
      rw [foldl_submit_measured, mem_measure_measured, known]
      simp [FileReport.file]

/-! ## A run -/

theorem foldl_take_sink (remembers : progress.Remembers registry earlier) :
    (reports.foldl (take sink repository registry) progress).sink
      = sink.replay progress.sink (callsAfter repository registry earlier reports) := by
  induction reports generalizing progress earlier with
  | nil => rfl
  | cons report more inductionHypothesis =>
      rw [List.foldl_cons, inductionHypothesis (take_remembers remembers),
        take_sink remembers, callsAfter, Sink.replay_append]

end Progress

/-- The host after a run is the host after the calls for the reports. -/
theorem ingest_sink
    {sink : Sink σ η}
    {repository : String}
    {registry : FileRegistry η}
    {reports : List FileReport}
    {state : σ} :
    (ingest sink repository registry reports state).sink
      = sink.replay state (callsFor repository registry reports) :=
  Progress.foldl_take_sink (by simp [Progress.Remembers])

/-! ## Keeping the calls -/

/-- How far a run has come, without the calls that its host kept. -/
def Progress.untraced (progress : Progress (σ × List (Call η))) : Progress σ :=
  ⟨progress.sink.1, progress.summary, progress.log, progress.measured⟩

namespace Progress

variable {sink : Sink σ η} {repository path file : String} {handle : η}
  {registry : FileRegistry η} {reports : List FileReport} {report : FileReport}
  {violations : List Violation} {progress : Progress (σ × List (Call η))}

theorem untraced_submit {violation : Violation} :
    (submit sink.traced repository path handle progress violation).untraced
      = submit sink repository path handle progress.untraced violation := by
  simp only [submit, untraced, Sink.traced]
  split <;> rfl

theorem untraced_foldl_submit :
    (violations.foldl (submit sink.traced repository path handle) progress).untraced
      = violations.foldl (submit sink repository path handle) progress.untraced :=
  (List.foldl_hom untraced fun _ _ => untraced_submit.symm).symm

theorem untraced_measure :
    (measure sink.traced file handle progress report).untraced
      = measure sink file handle progress.untraced report := by
  by_cases known : file ∈ progress.measured
  · simp [measure, untraced, known]
  · simp [measure, untraced, known, Sink.traced]

theorem untraced_take :
    (take sink.traced repository registry progress report).untraced
      = take sink repository registry progress.untraced report := by
  unfold take
  split
  · rfl
  · rw [untraced_foldl_submit, untraced_measure]
    rfl

theorem untraced_foldl_take :
    (reports.foldl (take sink.traced repository registry) progress).untraced
      = reports.foldl (take sink repository registry) progress.untraced :=
  (List.foldl_hom untraced fun _ _ => untraced_take.symm).symm

end Progress

/-- A run on a host that keeps its calls is the run on the host itself, and the
calls are those for the reports. -/
theorem ingest_traced
    {sink : Sink σ η}
    {repository : String}
    {registry : FileRegistry η}
    {reports : List FileReport}
    {state : σ} :
    let run := ingest sink repository registry reports state
    ingest sink.traced repository registry reports (state, [])
      = ⟨(run.sink, callsFor repository registry reports), run.summary, run.log⟩ := by
  intro run
  let start : Progress (σ × List (Call η)) := ⟨(state, []), .start reports.length, [], []⟩
  have same : (reports.foldl (Progress.take sink.traced repository registry) start).untraced
      = reports.foldl (Progress.take sink repository registry) start.untraced :=
    Progress.untraced_foldl_take
  have sinks : (ingest sink.traced repository registry reports (state, [])).sink
      = (run.sink, callsFor repository registry reports) := by
    rw [ingest_sink, Sink.replay_traced, List.nil_append, ← ingest_sink]
  have summaries : (ingest sink.traced repository registry reports (state, [])).summary
      = run.summary :=
    congrArg Progress.summary same
  have logs : (ingest sink.traced repository registry reports (state, [])).log = run.log :=
    congrArg (fun progress : Progress σ => progress.log ++ [progress.summary.closingEvent]) same
  rw [← sinks, ← summaries, ← logs]

/-! ## What the calls amount to -/

/-- The issues of a report, with the handle of its file. -/
def FileReport.issues
    (repository : String)
    (registry : FileRegistry η)
    (report : FileReport) :
    List (η × NewIssue) :=
  match registry.get? report.path with
  | none => []
  | some handle => report.violations.map fun violation => (handle, violation.toIssue repository)

/-- The measure of a file: the lines of code in the first report about it. -/
def firstMeasure?
    (registry : FileRegistry η)
    (reports : List FileReport)
    (file : String) :
    Option (η × Metric × Int64) := do
  let handle ← registry.files.get? file
  let first ← reports.find? fun report => report.file == file
  return (handle, .linesOfCode, first.linesOfCode)

section Parts

variable {repository : String} {registry : FileRegistry η}
  {earlier more reports : List FileReport} {report : FileReport}

theorem filterMap_issue?_calls :
    (report.calls repository registry earlier).filterMap Call.issue?
      = report.issues repository registry := by
  unfold FileReport.calls FileReport.issues
  cases registry.get? report.path with
  | none => rfl
  | some handle =>
      have silent : (if report.file ∈ earlier.map FileReport.file then []
          else [Call.saveMeasure handle Metric.linesOfCode report.linesOfCode]).filterMap
            Call.issue? = [] := by
        split <;> rfl
      simp only [List.filterMap_append, silent, List.nil_append, List.filterMap_map]
      exact congrFun List.filterMap_eq_map' _

/-- Each violation in a tracked file becomes one issue, in order. -/
theorem filterMap_issue?_callsAfter :
    (callsAfter repository registry earlier reports).filterMap Call.issue?
      = reports.flatMap (FileReport.issues repository registry) := by
  induction reports generalizing earlier with
  | nil => rfl
  | cons report more inductionHypothesis =>
      rw [callsAfter, List.filterMap_append, inductionHypothesis, filterMap_issue?_calls,
        List.flatMap_cons]

theorem filterMap_measure?_calls :
    (report.calls repository registry earlier).filterMap Call.measure?
      = if report.file ∈ earlier.map FileReport.file then []
        else ((registry.get? report.path).map fun handle =>
          (handle, Metric.linesOfCode, report.linesOfCode)).toList := by
  unfold FileReport.calls
  cases registry.get? report.path with
  | none => simp
  | some handle =>
      have silent : (report.violations.map fun violation =>
          Call.addIssue handle (violation.toIssue repository)).filterMap Call.measure? = [] := by
        simp
      simp only [List.filterMap_append, silent, List.append_nil]
      split <;> rfl

theorem firstMeasure?_cons_self :
    firstMeasure? registry (report :: more) report.file
      = (registry.get? report.path).map fun handle =>
          (handle, Metric.linesOfCode, report.linesOfCode) := by
  simp only [firstMeasure?, List.find?_cons, beq_self_eq_true]
  change ((registry.get? report.path).bind fun handle => _) = _
  cases registry.get? report.path <;> rfl

theorem firstMeasure?_cons_of_ne {file : String} (apart : file ≠ report.file) :
    firstMeasure? registry (report :: more) file = firstMeasure? registry more file := by
  have other : (report.file == file) = false := by simpa using apart.symm
  simp [firstMeasure?, other]

/-- Each tracked file that was not reported before is measured once, by the
first report about it. -/
theorem filterMap_measure?_callsAfter :
    (callsAfter repository registry earlier reports).filterMap Call.measure?
      = ((reports.map FileReport.file).removeAll (earlier.map FileReport.file)).eraseDups.filterMap
          (firstMeasure? registry reports) := by
  induction reports generalizing earlier with
  | nil => rfl
  | cons report more inductionHypothesis =>
      let files := more.map FileReport.file
      let before := earlier.map FileReport.file
      rw [callsAfter, List.filterMap_append, inductionHypothesis, filterMap_measure?_calls,
        List.map_append, List.map_singleton, List.map_cons, List.cons_removeAll]
      change _ ++ (files.removeAll (before ++ [report.file])).eraseDups.filterMap _ = _
      have shrink : files.removeAll (before ++ [report.file])
          = (files.removeAll before).filter fun file => !file == report.file := by
        simp [List.removeAll, List.filter_filter, Bool.and_comm, Bool.beq_eq_decide_eq]
      -- No later measure is for the file of this report.
      have later : (files.removeAll (before ++ [report.file])).eraseDups.filterMap
            (firstMeasure? registry more)
          = (files.removeAll (before ++ [report.file])).eraseDups.filterMap
              (firstMeasure? registry (report :: more)) := by
        apply List.filterMap_congr
        intro file member
        rw [List.mem_eraseDups, shrink, List.mem_filter] at member
        exact (firstMeasure?_cons_of_ne (by simpa using member.2)).symm
      rw [later]
      by_cases known : report.file ∈ before
      · have unchanged : files.removeAll (before ++ [report.file]) = files.removeAll before := by
          rw [shrink, List.filter_eq_self]
          intro file member
          simp only [List.removeAll, List.mem_filter] at member
          grind
        have listed : before.contains report.file = true := List.contains_iff_mem.mpr known
        rw [unchanged, if_pos known, List.nil_append, if_neg (Bool.not_eq_false _ ▸ listed)]
      · have absent : before.contains report.file = false := by
          rw [← Bool.not_eq_true, List.contains_iff_mem]
          exact known
        rw [if_neg known, if_pos absent, List.eraseDups_cons, ← shrink,
          List.filterMap_cons, firstMeasure?_cons_self]
        cases registry.get? report.path <;> rfl

end Parts

/-- The line of an issue is the reported one where that is a positive 32 bit
number, and there is none otherwise. -/
theorem Violation.line?_eq_some_iff {violation : Violation} {line : UInt32} :
    violation.line? = some line
      ↔ violation.sourceLine.toInt = line.toNat ∧ 0 < line.toNat := by
  have small := line.toNat_lt_size
  simp only [Violation.line?]
  constructor
  · intro usable
    split at usable
    · rename_i range
      have same := congrArg UInt32.toNat (Option.some.inj usable)
      rw [UInt32.toNat_ofNat_of_lt' (by omega)] at same
      omega
    · contradiction
  · rintro ⟨same, positive⟩
    rw [if_pos (by omega), same, Int.toNat_natCast, UInt32.ofNat_toNat]

/-- A run makes exactly the calls that can be read off the reports and the
registry, on a host that answers in any way: one measure for each tracked file
that is reported, by the first report about it, and one issue for each violation
in a tracked file.  The host that keeps them is otherwise the host itself. -/
theorem ingest_calls
    (sink : Sink σ η)
    (repository : String)
    (registry : FileRegistry η)
    (reports : List FileReport)
    (state : σ) :
    let run := ingest sink repository registry reports state
    let traced := ingest sink.traced repository registry reports (state, [])
    let calls := callsFor repository registry reports
    traced = ⟨(run.sink, calls), run.summary, run.log⟩
    ∧ run.sink = sink.replay state calls
    ∧ calls.filterMap Call.measure?
        = (reports.map FileReport.file).eraseDups.filterMap (firstMeasure? registry reports)
    ∧ calls.filterMap Call.issue? = reports.flatMap (FileReport.issues repository registry)
    ∧ ∀ violation : Violation,
        let issue := violation.toIssue repository
        issue.rule = ⟨repository, violation.ruleType⟩
        ∧ issue.message = violation.description
        ∧ ∀ line, issue.line = some line
            ↔ violation.sourceLine.toInt = line.toNat ∧ 0 < line.toNat := by
  intro run traced calls
  refine ⟨ingest_traced, ingest_sink, ?_, filterMap_issue?_callsAfter, ?_⟩
  · have measures : calls.filterMap Call.measure?
        = ((reports.map FileReport.file).removeAll ([].map FileReport.file)).eraseDups.filterMap
            (firstMeasure? registry reports) :=
      filterMap_measure?_callsAfter
    rwa [List.map_nil, List.removeAll_nil] at measures
  · intro violation issue
    exact ⟨rfl, rfl, fun line => Violation.line?_eq_some_iff⟩

end Findings
