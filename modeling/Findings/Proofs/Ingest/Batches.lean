import Mathlib.Data.Finset.Card
import Findings.Proofs.Ingest.Account

/-!
Contract: a report list taken in as a whole and in two parts.

Owns:
- sinks whose answers depend on the issues alone, and what they answer to calls
  with other measures between them;
- `filedCalls`, the calls for reports with the files that they are about;
- the law of a list that is taken in as a whole: it makes the calls for its two
  parts without the measures of files that the first part matched, is answered
  alike, and counts the same but for these measures.

The run over the second part starts with nothing measured, while the whole run
has the files of the first part behind it.  So the second part is compared with
itself behind any earlier reports.

Does not own: sinks that answer by what was measured.
-/

namespace Findings

variable {σ η : Type}

/-! ## Sinks that answer by the issues -/

namespace Sink

/-- What a sink answers to an issue depends on the issues handed over before, and
not on the measures. -/
def AnswersByIssues (sink : Sink σ η) (state : σ) : Prop :=
  ∀ calls others : List (Call η),
    calls.filterMap Call.issue? = others.filterMap Call.issue? →
      ∀ file issue,
        (sink.addIssue (sink.replay state calls) file issue).1
          = (sink.addIssue (sink.replay state others) file issue).1

variable {sink : Sink σ η} {state : σ} {calls others : List (Call η)}

/-- Behind calls with the same issues, calls are answered as their issues alone. -/
theorem AnswersByIssues.answers_replay
    (byIssues : sink.AnswersByIssues state)
    (calls : List (Call η))
    {earlier others : List (Call η)}
    (same : earlier.filterMap Call.issue? = others.filterMap Call.issue?) :
    sink.answers (sink.replay state earlier) calls
      = sink.answers (sink.replay state others)
          ((calls.filterMap Call.issue?).map fun handed => .addIssue handed.1 handed.2) := by
  -- Both sides go on behind the issues of the call, a measure on the left side only.
  induction calls generalizing earlier others with
  | nil => rfl
  | cons call calls inductionHypothesis =>
    cases call with
    | saveMeasure file metric value =>
      have sameLater : (earlier ++ [Call.saveMeasure file metric value]).filterMap Call.issue?
          = others.filterMap Call.issue? := by
        rw [List.filterMap_append, same]
        exact List.append_nil _
      have later := inductionHypothesis sameLater
      rw [Sink.replay_append] at later
      exact later
    | addIssue file issue =>
      have sameLater : (earlier ++ [Call.addIssue file issue]).filterMap Call.issue?
          = (others ++ [Call.addIssue file issue]).filterMap Call.issue? := by
        rw [List.filterMap_append, List.filterMap_append, same]
      have later := inductionHypothesis sameLater
      rw [Sink.replay_append, Sink.replay_append] at later
      exact congrArg₂ List.cons (byIssues earlier others same file issue) later

/-- Calls with the same issues are answered alike. -/
theorem AnswersByIssues.answers_eq
    (byIssues : sink.AnswersByIssues state)
    (same : calls.filterMap Call.issue? = others.filterMap Call.issue?) :
    sink.answers state calls = sink.answers state others := by
  have none : ([] : List (Call η)).filterMap Call.issue? = [].filterMap Call.issue? := rfl
  have left := byIssues.answers_replay calls none
  rw [same] at left
  exact left.trans (byIssues.answers_replay others none).symm

end Sink

/-! ## Calls with their files -/

section Calls

variable {repository : String} {registry : FileRegistry η}
  {earlier others first second reports : List FileReport} {report : FileReport}

/-- The calls for reports that come after earlier ones, each with the file that
its report is about. -/
def filedCallsAfter (repository : String) (registry : FileRegistry η) :
    List FileReport → List FileReport → List (String × Call η)
  | _, [] => []
  | earlier, report :: more =>
    (report.calls repository registry earlier).map (fun call => (report.file, call))
      ++ filedCallsAfter repository registry (earlier ++ [report]) more

/-- The calls for reports, each with the file that its report is about. -/
def filedCalls
    (repository : String)
    (registry : FileRegistry η)
    (reports : List FileReport) :
    List (String × Call η) :=
  filedCallsAfter repository registry [] reports

/-- A call that is not a measure of one of the given files. -/
def isNewTo (files : List String) (filed : String × Call η) : Bool :=
  !(filed.2.measure?.isSome && decide (filed.1 ∈ files))

theorem map_snd_filedCallsAfter :
    (filedCallsAfter repository registry earlier reports).map Prod.snd
      = callsAfter repository registry earlier reports := by
  induction reports generalizing earlier with
  | nil => rfl
  | cons report more inductionHypothesis =>
    rw [filedCallsAfter, callsAfter, List.map_append, inductionHypothesis, List.map_map]
    exact congrArg (· ++ _) (List.map_id _)

theorem filedCallsAfter_append :
    filedCallsAfter repository registry earlier (first ++ second)
      = filedCallsAfter repository registry earlier first
        ++ filedCallsAfter repository registry (earlier ++ first) second := by
  induction first generalizing earlier with
  | nil => simp [filedCallsAfter]
  | cons report more inductionHypothesis =>
    rw [List.cons_append, filedCallsAfter, filedCallsAfter, inductionHypothesis]
    simp only [List.append_assoc, List.singleton_append]

theorem matchedFiles_append :
    matchedFiles registry (first ++ second)
      = matchedFiles registry first ++ matchedFiles registry second := by
  rw [matchedFiles, List.filter_append, List.map_append]
  rfl

theorem mem_matchedFiles_iff (tracked : report.isTracked registry) :
    report.file ∈ matchedFiles registry earlier ↔ report.file ∈ earlier.map FileReport.file := by
  simp only [matchedFiles, List.mem_map, List.mem_filter]
  constructor
  · rintro ⟨other, ⟨listed, -⟩, same⟩
    exact ⟨other, listed, same⟩
  · rintro ⟨other, listed, same⟩
    refine ⟨other, ⟨listed, ?_⟩, same⟩
    -- Whether a report is tracked depends on its file alone.
    unfold FileReport.isTracked FileRegistry.get? at tracked ⊢
    unfold FileReport.file at same
    rwa [same]

theorem filter_isNewTo_issues {files : List String} {file : String} {handle : η}
    {violations : List Violation} :
    (violations.map fun violation =>
        (file, Call.addIssue handle (violation.toIssue repository))).filter (isNewTo files)
      = violations.map fun violation =>
          (file, Call.addIssue handle (violation.toIssue repository)) := by
  rw [List.filter_eq_self]
  intro entry member
  obtain ⟨violation, -, rfl⟩ := List.mem_map.mp member
  rfl

/-- Behind more reports a report makes the same calls, but does not measure a file
that one of them matched. -/
theorem map_calls_append :
    (report.calls repository registry (earlier ++ others)).map (fun call => (report.file, call))
      = ((report.calls repository registry others).map fun call => (report.file, call)).filter
          (isNewTo (matchedFiles registry earlier)) := by
  unfold FileReport.calls
  cases found : registry.get? report.path with
  | none => rfl
  | some handle =>
    have tracked : report.isTracked registry := by simp [FileReport.isTracked, found]
    have matched : report.file ∈ matchedFiles registry earlier ↔ _ := mem_matchedFiles_iff tracked
    simp only [List.map_append, List.filter_append, List.map_map, Function.comp_def,
      filter_isNewTo_issues]
    congr 1
    -- Only the measure is left, which is made if its file is new to both lists.
    by_cases recent : report.file ∈ others.map FileReport.file
    · simp [recent]
    · by_cases known : report.file ∈ earlier.map FileReport.file
      · simp [recent, known, isNewTo, matched.mpr known]
      · simp [recent, known, isNewTo, matched.not.mpr known]

theorem filedCallsAfter_earlier :
    filedCallsAfter repository registry (earlier ++ others) reports
      = (filedCallsAfter repository registry others reports).filter
          (isNewTo (matchedFiles registry earlier)) := by
  -- The processed prefix grows at its end, so the list in front of it stays as it is.
  induction reports generalizing others with
  | nil => rfl
  | cons report more inductionHypothesis =>
    rw [filedCallsAfter, filedCallsAfter, List.filter_append, map_calls_append,
      List.append_assoc, inductionHypothesis]

/-- The calls for a whole list are those for its parts, without the measures of
files in the second that the first matched. -/
theorem filedCalls_append :
    filedCalls repository registry (first ++ second)
      = filedCalls repository registry first
        ++ (filedCalls repository registry second).filter
            (isNewTo (matchedFiles registry first)) := by
  have behind : filedCallsAfter repository registry (first ++ []) second = _ :=
    filedCallsAfter_earlier
  rw [List.append_nil] at behind
  rw [filedCalls, filedCallsAfter_append, List.nil_append, behind]
  rfl

end Calls

/-! ## A whole list and its parts -/

/-- The summary of a whole list is the sum of those of its parts, except that a
file that both parts match is measured once. -/
structure Summary.Sums (overlap : Nat) (whole first second : Summary) : Prop where
  reported : whole.filesReported = first.filesReported + second.filesReported
  matched : whole.filesMatched = first.filesMatched + second.filesMatched
  skipped : whole.filesSkipped = first.filesSkipped + second.filesSkipped
  metrics : whole.metricsApplied + overlap = first.metricsApplied + second.metricsApplied
  applied : whole.issuesApplied = first.issuesApplied + second.issuesApplied
  rejected : whole.issuesRejected = first.issuesRejected + second.issuesRejected

section Parts

variable {sink : Sink σ η} {repository : String} {registry : FileRegistry η}
  {first second : List FileReport} {state : σ}

theorem issues_callsFor_append :
    (callsFor repository registry (first ++ second)).filterMap Call.issue?
      = (callsFor repository registry first
          ++ callsFor repository registry second).filterMap Call.issue? := by
  simp only [callsFor, List.filterMap_append, filterMap_issue?_callsAfter, List.flatMap_append]

theorem answers_callsFor_append (byIssues : sink.AnswersByIssues state) :
    sink.answers state (callsFor repository registry (first ++ second))
      = sink.answers state (callsFor repository registry first)
        ++ sink.answers (sink.replay state (callsFor repository registry first))
            (callsFor repository registry second) := by
  rw [byIssues.answers_eq issues_callsFor_append, Sink.answers_append]

theorem sums_ingest (byIssues : sink.AnswersByIssues state) :
    let front := ingest sink repository registry first state
    Summary.Sums
      ((matchedFiles registry first).toFinset ∩ (matchedFiles registry second).toFinset).card
      (ingest sink repository registry (first ++ second) state).summary
      front.summary
      (ingest sink repository registry second front.sink).summary := by
  intro front
  have whole := @faithful_ingest _ _ sink repository registry (first ++ second) state
  have before := @faithful_ingest _ _ sink repository registry first state
  have after := @faithful_ingest _ _ sink repository registry second front.sink
  have answers : sink.answers state (callsFor repository registry (first ++ second))
      = sink.answers state (callsFor repository registry first)
        ++ sink.answers front.sink (callsFor repository registry second) := by
    rw [answers_callsFor_append byIssues, ← ingest_sink]
  exact {
    reported := by
      rw [whole.reported, before.reported, after.reported, List.length_append]
    matched := by
      rw [whole.matched, before.matched, after.matched, List.filter_append, List.length_append]
    skipped := by
      rw [whole.skipped, before.skipped, after.skipped, List.filter_append, List.length_append]
    metrics := by
      -- Each run measures its matched files once, so this counts a union.
      rw [whole.metrics_eq, before.metrics_eq, after.metrics_eq, matchedFiles_append,
        List.toFinset_append, Finset.card_union_add_card_inter]
    applied := by
      rw [whole.applied, before.applied, after.applied, answers, List.countP_append]
    rejected := by
      rw [whole.rejected, before.rejected, after.rejected, answers, List.countP_append] }

end Parts

/-- A report list taken in as a whole, on a sink that answers by the issues,
compared with its parts taken in one after the other.  The issues and the answers
to them are the same sequence.  The calls are the same but for the measures in
the second part of files that the first part matched, which the whole run does
not make.  The counts add up, but for these measures: one for each file that both
parts match. -/
theorem ingest_in_batches
    (sink : Sink σ η)
    (repository : String)
    (registry : FileRegistry η)
    (first second : List FileReport)
    (state : σ)
    (byIssues : sink.AnswersByIssues state) :
    let run := fun reports start => ingest sink.traced repository registry reports (start, [])
    let whole := run (first ++ second) state
    let front := run first state
    let back := run second front.sink.1
    let filed := filedCalls repository registry second
    back.sink.2 = filed.map Prod.snd
    ∧ whole.sink.2
      = front.sink.2 ++ (filed.filter (isNewTo (matchedFiles registry first))).map Prod.snd
    ∧ whole.sink.2.filterMap Call.issue?
      = front.sink.2.filterMap Call.issue? ++ back.sink.2.filterMap Call.issue?
    ∧ sink.answers state whole.sink.2
      = sink.answers state front.sink.2 ++ sink.answers front.sink.1 back.sink.2
    ∧ whole.summary.Sums
        ((matchedFiles registry first).toFinset ∩ (matchedFiles registry second).toFinset).card
        front.summary back.summary := by
  intro run whole front back filed
  have calls : ∀ reports, callsFor repository registry reports
      = (filedCalls repository registry reports).map Prod.snd :=
    fun _ => map_snd_filedCallsAfter.symm
  simp only [whole, front, back, run, filed, ingest_traced]
  refine ⟨calls second, ?_, ?_, ?_, sums_ingest byIssues⟩
  · rw [calls, calls, filedCalls_append, List.map_append]
  · rw [issues_callsFor_append, List.filterMap_append]
  · rw [answers_callsFor_append byIssues, ingest_sink]

/-- A sink that takes a number of issues and declines the rest. -/
def quota : Sink Nat String where
  saveMeasure left _ _ _ := left
  addIssue left _ _ := if left = 0 then (.declined, 0) else (.accepted, left - 1)

theorem replay_quota {left : Nat} {calls : List (Call String)} :
    quota.replay left calls = left - (calls.filterMap Call.issue?).length := by
  induction calls generalizing left with
  | nil => rfl
  | cons call calls inductionHypothesis =>
    rw [Sink.replay_cons, inductionHypothesis]
    cases call with
    | saveMeasure file metric value => rfl
    | addIssue file issue =>
      have fewer : quota.perform left (.addIssue file issue) = left - 1 := by
        simp only [Sink.perform, quota]
        split <;> omega
      rw [fewer, List.filterMap_cons_some Call.issue?_addIssue, List.length_cons]
      omega

theorem answersByIssues_quota (left : Nat) : quota.AnswersByIssues left := by
  intro calls others same file issue
  rw [replay_quota, replay_quota, same]

/-- Both parts match `a.go`, the second in another spelling.  The whole run
measures it once, and the one issue that is taken is the same. -/
theorem ingest_in_batches_quota :
    let registry : FileRegistry String := .ofFiles [⟨"a.go", "A"⟩, ⟨"b.go", "B"⟩]
    let complex : Violation := ⟨"CC", "too complex", 5⟩
    let first : List FileReport := [⟨"a.go", 10, 0, [complex]⟩]
    let second : List FileReport := [⟨".\\a.go", 12, 0, [complex]⟩, ⟨"b.go", 7, 0, []⟩]
    let issue : Call String := .addIssue "A" (complex.toIssue "go-go")
    let whole := ingest quota.traced "go-go" registry (first ++ second) (1, [])
    quota.AnswersByIssues 1
    ∧ whole.sink.2
      = [.saveMeasure "A" .linesOfCode 10, issue, issue, .saveMeasure "B" .linesOfCode 7]
    ∧ quota.answers 1 whole.sink.2 = [.accepted, .declined]
    ∧ whole.summary.metricsApplied = 2 := by
  intro registry complex first second issue whole
  have byIssues := answersByIssues_quota 1
  obtain ⟨-, calls, -, answers, sums⟩ :=
    ingest_in_batches quota "go-go" registry first second 1 byIssues
  have overlap : ((matchedFiles registry first).toFinset
      ∩ (matchedFiles registry second).toFinset).card = 1 := by
    decide
  have measured := sums.metrics
  rw [overlap] at measured
  exact ⟨byIssues, calls.trans (by decide), answers.trans (by decide),
    Nat.succ.inj (measured.trans (by decide))⟩

end Findings
