import Mathlib.Data.Finset.Card
import Mathlib.Data.List.Dedup
import Findings.Proofs.Ingest.Answers

/-!
Contract: what a run tells about itself.

Owns:
- `eventsFor`, the log of a run, read off the reports, the registry and the
  answers of the host;
- the law that a run tells these events in order, and its counts at the end;
- the counts, which agree with the reports, with the calls, with the answers and
  with the log;
- `matchedFiles`, and what else the counts depend on.

The loop remembers which files it measured, and its events come one at a time.
What is read off remembers nothing: a report is compared with those before it.

Does not own: how an event is worded.
-/

namespace Findings

variable {σ η : Type}

/-! ## Events read off the reports -/

def FileReport.isTracked (registry : FileRegistry η) (report : FileReport) : Bool :=
  (registry.get? report.path).isSome

/-- The violations of a report that are handed over. -/
def FileReport.submitted (registry : FileRegistry η) (report : FileReport) : List Violation :=
  if report.isTracked registry then report.violations else []

def Answer.event (path : String) (violation : Violation) : Answer → LogEvent
  | .accepted => .saved (violation.text path)
  | .declined => .declined (violation.text path)
  | .refused reason => .refused path violation.sourceLine reason

/-- The events of one report, after the earlier ones of its list.  The answers
to its violations come first among the given ones. -/
def FileReport.events
    (registry : FileRegistry η)
    (earlier : List FileReport)
    (answers : List Answer)
    (report : FileReport) :
    List LogEvent :=
  if report.isTracked registry then
    (if report.file ∈ earlier.map file then
        [.repeated report.path report.file report.linesOfCode]
      else [])
      ++ List.zipWith (Answer.event report.path) (report.submitted registry) answers
  else
    [.untracked report.path]

/-- The events of reports that come after earlier ones. -/
def eventsAfter (registry : FileRegistry η) :
    List FileReport → List FileReport → List Answer → List LogEvent
  | _, [], _ => []
  | earlier, report :: more, answers =>
    report.events registry earlier answers
      ++ eventsAfter registry (earlier ++ [report]) more
        (answers.drop (report.submitted registry).length)

def eventsFor
    (registry : FileRegistry η)
    (reports : List FileReport)
    (answers : List Answer) :
    List LogEvent :=
  eventsAfter registry [] reports answers

/-- The path that an event tells to be untracked. -/
def LogEvent.untracked? : LogEvent → Option String
  | untracked path => some path
  | _ => none

def LogEvent.answer? : LogEvent → Option Answer
  | saved _ => some .accepted
  | declined _ => some .declined
  | refused _ _ reason => some (.refused reason)
  | untracked _ | repeated .. | finished .. => none

/-! ## Wordings -/

section Wordings

variable {event : LogEvent}

theorem LogEvent.isSome_untracked? :
    event.untracked?.isSome = (event.message == "No tracked file for report, skipping") := by
  cases event <;> simp [untracked?, message]

/-- The only warning is that of a repetition. -/
theorem LogEvent.level_beq_warn :
    (event.level == .warn)
      = (event.message == "File reported more than once, keeping its first NCLOC") := by
  cases event <;> simp [level, message]

theorem LogEvent.getD_isAccepted :
    (event.answer?.map (·.isAccepted)).getD false = (event.message == "Saved issue") := by
  cases event <;> simp [answer?, message, Answer.isAccepted]

theorem LogEvent.getD_not_isAccepted :
    (event.answer?.map (!·.isAccepted)).getD false
      = (event.message == "Host declined issue" || event.message == "Can't add issue") := by
  cases event <;> simp [answer?, message, Answer.isAccepted]

/-- The only information is that a run is over. -/
theorem LogEvent.level_beq_info :
    (event.level == .info) = (event.message == "Ingested analyzer report") := by
  cases event <;> simp [level, message]

end Wordings

/-! ## Reports -/

section Reports

variable {repository : String} {registry : FileRegistry η} {earlier : List FileReport}
  {report : FileReport} {answers : List Answer} {sink : Sink σ η} {state : σ}

/-- Each issue is answered once. -/
theorem Sink.length_answers (calls : List (Call η)) :
    (sink.answers state calls).length = (calls.filterMap Call.issue?).length := by
  induction calls generalizing state with
  | nil => rfl
  | cons call calls inductionHypothesis =>
      cases call with
      | saveMeasure file metric value => exact inductionHypothesis
      | addIssue file issue => exact congrArg (· + 1) inductionHypothesis

theorem length_issues :
    (report.issues repository registry).length = (report.submitted registry).length := by
  unfold FileReport.issues FileReport.submitted FileReport.isTracked
  cases registry.get? report.path <;> simp

theorem length_answers_calls :
    (sink.answers state (report.calls repository registry earlier)).length
      = (report.submitted registry).length := by
  rw [Sink.length_answers, filterMap_issue?_calls, length_issues]

/-- Only the answers to the violations of a report are told with it. -/
theorem FileReport.events_append {later : List Answer}
    (own : answers.length = (report.submitted registry).length) :
    report.events registry earlier (answers ++ later) = report.events registry earlier answers := by
  have cut : List.zipWith (Answer.event report.path) (report.submitted registry ++ [])
        (answers ++ later)
      = List.zipWith (Answer.event report.path) (report.submitted registry) answers
        ++ List.zipWith (Answer.event report.path) [] later :=
    List.zipWith_append own.symm
  rw [List.append_nil, List.zipWith_nil_left, List.append_nil] at cut
  rw [FileReport.events, cut, FileReport.events]

/-- A report measures its file if it is tracked and was not reported before. -/
theorem length_measures :
    ((report.calls repository registry earlier).filterMap Call.measure?).length
      = if report.isTracked registry ∧ report.file ∉ earlier.map FileReport.file then 1 else 0 := by
  rw [filterMap_measure?_calls]
  unfold FileReport.isTracked
  split <;> cases registry.get? report.path <;> simp [*]

end Reports

/-! ## The log of a run -/

namespace Progress

variable {sink : Sink σ η} {repository path file : String} {handle : η}
  {registry : FileRegistry η} {earlier reports : List FileReport} {report : FileReport}
  {violations : List Violation} {progress : Progress σ}

theorem log_submit {violation : Violation} :
    (submit sink repository path handle progress violation).log
      = progress.log
        ++ [Answer.event path violation
            (sink.addIssue progress.sink handle (violation.toIssue repository)).1] := by
  simp only [submit]
  cases (sink.addIssue progress.sink handle (violation.toIssue repository)).1 <;> rfl

/-- The violations are told in order, each with the answer to it. -/
theorem log_foldl_submit :
    (violations.foldl (submit sink repository path handle) progress).log
      = progress.log
        ++ List.zipWith (Answer.event path) violations
            (sink.answers progress.sink (violations.map fun violation =>
              .addIssue handle (violation.toIssue repository))) := by
  induction violations generalizing progress with
  | nil => exact (List.append_nil _).symm
  | cons violation violations inductionHypothesis =>
      rw [List.foldl_cons, inductionHypothesis, log_submit, submit_sink, List.append_assoc]
      rfl

theorem log_measure :
    (measure sink file handle progress report).log
      = progress.log
        ++ if file ∈ progress.measured then [.repeated report.path file report.linesOfCode]
          else [] := by
  unfold measure
  split
  · rfl
  · exact (List.append_nil _).symm

/-- A report tells the events that are read off it. -/
theorem log_take (remembers : progress.Remembers registry earlier) :
    (take sink repository registry progress report).log
      = progress.log
        ++ report.events registry earlier
            (sink.answers progress.sink (report.calls repository registry earlier)) := by
  unfold take FileReport.events FileReport.submitted FileReport.isTracked FileReport.calls
  rw [FileRegistry.lookup_eq]
  cases found : registry.get? report.path with
  | none => rfl
  | some handle =>
      have known := remembers report (by simp [found])
      have same : (if normalizePath report.path ∈ progress.measured then []
            else [Call.saveMeasure handle Metric.linesOfCode report.linesOfCode])
          = if report.file ∈ earlier.map FileReport.file then []
            else [Call.saveMeasure handle Metric.linesOfCode report.linesOfCode] :=
        ite_congr (propext known) (fun _ => rfl) (fun _ => rfl)
      have repeats : (if normalizePath report.path ∈ progress.measured then
            [LogEvent.repeated report.path (normalizePath report.path) report.linesOfCode] else [])
          = if report.file ∈ earlier.map FileReport.file then
            [LogEvent.repeated report.path report.file report.linesOfCode] else [] :=
        ite_congr (propext known) (fun _ => rfl) (fun _ => rfl)
      -- A measure is not answered, so the answers are those to the issues.
      have silent : sink.answers progress.sink
          (if report.file ∈ earlier.map FileReport.file then []
            else [Call.saveMeasure handle Metric.linesOfCode report.linesOfCode]) = [] := by
        split <;> rfl
      simp only [Option.map_some, Option.isSome_some, if_true]
      rw [log_foldl_submit, log_measure, measure_sink, Sink.answers_append, silent, ← same,
        ← repeats, List.nil_append, List.append_assoc]

theorem log_foldl_take (remembers : progress.Remembers registry earlier) :
    (reports.foldl (take sink repository registry) progress).log
      = progress.log
        ++ eventsAfter registry earlier reports
            (sink.answers progress.sink (callsAfter repository registry earlier reports)) := by
  induction reports generalizing progress earlier with
  | nil => exact (List.append_nil _).symm
  | cons report more inductionHypothesis =>
      let calls := report.calls repository registry earlier
      have own : (sink.answers progress.sink calls).length = (report.submitted registry).length :=
        length_answers_calls
      let later := sink.answers (sink.replay progress.sink calls)
        (callsAfter repository registry (earlier ++ [report]) more)
      have dropped : (sink.answers progress.sink calls ++ later).drop
          (report.submitted registry).length = later := List.drop_left' own
      rw [List.foldl_cons, inductionHypothesis (take_remembers remembers), log_take remembers,
        take_sink remembers, callsAfter, Sink.answers_append, eventsAfter,
        FileReport.events_append own, dropped, List.append_assoc]

/-! ## The counts of a run -/

/-- The counts of files and measures after the earlier reports.  The measured
files are the tracked ones that were reported, each once. -/
structure Tallies
    (registry : FileRegistry η)
    (total : Nat)
    (earlier : List FileReport)
    (progress : Progress σ) :
    Prop where
  reported : progress.summary.filesReported = total
  matched : progress.summary.filesMatched = earlier.countP (·.isTracked registry)
  skipped : progress.summary.filesSkipped = earlier.countP (!·.isTracked registry)
  metrics : progress.summary.metricsApplied = progress.measured.length
  distinct : progress.measured.Nodup
  measured : ∀ name, name ∈ progress.measured
    ↔ name ∈ (earlier.filter (·.isTracked registry)).map FileReport.file

theorem Tallies.submit {total : Nat} {violation : Violation}
    (tallies : progress.Tallies registry total earlier) :
    (Progress.submit sink repository path handle progress violation).Tallies
      registry total earlier := by
  obtain ⟨reported, matched, skipped, metrics, distinct, measured⟩ := tallies
  simp only [Progress.submit]
  cases (sink.addIssue progress.sink handle (violation.toIssue repository)).1 <;>
    exact ⟨reported, matched, skipped, metrics, distinct, measured⟩

theorem Tallies.foldl_submit {total : Nat} (tallies : progress.Tallies registry total earlier) :
    (violations.foldl (Progress.submit sink repository path handle) progress).Tallies
      registry total earlier := by
  induction violations generalizing progress with
  | nil => exact tallies
  | cons violation violations inductionHypothesis => exact inductionHypothesis tallies.submit

/-- One more report is counted as matched or as skipped, and its file is measured
if it was not before. -/
theorem Tallies.take {total : Nat} (tallies : progress.Tallies registry total earlier) :
    (Progress.take sink repository registry progress report).Tallies
      registry total (earlier ++ [report]) := by
  obtain ⟨reported, matched, skipped, metrics, distinct, measured⟩ := tallies
  unfold Progress.take
  rw [FileRegistry.lookup_eq]
  cases found : registry.get? report.path with
  | none =>
      have untracked : report.isTracked registry = false := by
        simp [FileReport.isTracked, found]
      refine ⟨reported, ?_, ?_, metrics, distinct, ?_⟩
      · simp [List.countP_append, untracked, matched]
      · simp [List.countP_append, untracked, skipped]
      · simpa [List.filter_append, untracked] using measured
  | some handle =>
      have tracked : report.isTracked registry = true := by
        simp [FileReport.isTracked, found]
      simp only [Option.map_some]
      apply Tallies.foldl_submit
      have files : ∀ name, name ∈ ((earlier ++ [report]).filter (·.isTracked registry)).map
            FileReport.file
          ↔ name ∈ progress.measured ∨ name = report.file := by
        intro name
        rw [measured, List.filter_append, List.map_append, List.mem_append]
        simp [tracked]
      unfold Progress.measure
      split
      · rename_i known
        refine ⟨reported, ?_, ?_, metrics, distinct, ?_⟩
        · simp [List.countP_append, tracked, matched]
        · simp [List.countP_append, tracked, skipped]
        · intro name
          rw [files]
          constructor
          · exact Or.inl
          · rintro (held | rfl)
            · exact held
            · exact known
      · rename_i new
        refine ⟨reported, ?_, ?_, ?_, List.nodup_cons.mpr ⟨new, distinct⟩, ?_⟩
        · simp [List.countP_append, tracked, matched]
        · simp [List.countP_append, tracked, skipped]
        · simp [metrics]
        · intro name
          rw [files, List.mem_cons, or_comm]
          rfl

theorem Tallies.foldl_take {total : Nat} (tallies : progress.Tallies registry total earlier) :
    (reports.foldl (Progress.take sink repository registry) progress).Tallies
      registry total (earlier ++ reports) := by
  induction reports generalizing progress earlier with
  | nil => simpa using tallies
  | cons report more inductionHypothesis =>
      have first : (Progress.take sink repository registry progress report).Tallies
          registry total (earlier ++ [report]) := tallies.take
      have later := inductionHypothesis first
      rwa [List.append_assoc] at later

/-- A file is remembered when its measure is saved. -/
theorem length_measured_take (remembers : progress.Remembers registry earlier) :
    (take sink repository registry progress report).measured.length
      = progress.measured.length
        + ((report.calls repository registry earlier).filterMap Call.measure?).length := by
  rw [length_measures]
  unfold take FileReport.isTracked
  rw [FileRegistry.lookup_eq]
  cases found : registry.get? report.path with
  | none => rfl
  | some handle =>
      have known : normalizePath report.path ∈ progress.measured ↔ _ :=
        remembers report (by simp [found])
      simp only [Option.map_some, foldl_submit_measured, measure]
      by_cases member : normalizePath report.path ∈ progress.measured
      · rw [if_pos member, if_neg fun both => both.2 (known.mp member)]
        rfl
      · rw [if_neg member, if_pos ⟨rfl, fun listed => member (known.mpr listed)⟩]
        rfl

theorem length_measured_foldl_take (remembers : progress.Remembers registry earlier) :
    (reports.foldl (take sink repository registry) progress).measured.length
      = progress.measured.length
        + ((callsAfter repository registry earlier reports).filterMap Call.measure?).length := by
  induction reports generalizing progress earlier with
  | nil => rfl
  | cons report more inductionHypothesis =>
      rw [List.foldl_cons, inductionHypothesis (take_remembers remembers),
        length_measured_take remembers, callsAfter, List.filterMap_append, List.length_append,
        Nat.add_assoc]

end Progress

/-! ## Events and calls -/

section Events

variable {repository path : String} {registry : FileRegistry η}
  {earlier reports : List FileReport} {report : FileReport} {violations : List Violation}
  {answers : List Answer} {event : LogEvent}

theorem mem_zipWith_event
    (inside : event ∈ List.zipWith (Answer.event path) violations answers) :
    ∃ violation answer, event = Answer.event path violation answer := by
  rw [← List.map_uncurry_zip_eq_zipWith] at inside
  obtain ⟨⟨violation, answer⟩, -, same⟩ := List.mem_map.mp inside
  exact ⟨violation, answer, same.symm⟩

/-- What is told of an untracked report. -/
theorem filterMap_untracked?_events :
    (report.events registry earlier answers).filterMap LogEvent.untracked?
      = if report.isTracked registry then [] else [report.path] := by
  unfold FileReport.events
  split
  · rw [List.filterMap_eq_nil_iff]
    intro event inside
    rcases List.mem_append.mp inside with repeats | told
    · split at repeats
      · rw [List.mem_singleton.mp repeats]
        rfl
      · contradiction
    · obtain ⟨violation, answer, rfl⟩ := mem_zipWith_event told
      cases answer <;> rfl
  · rfl

/-- The answers to the violations of a report are told as they were. -/
theorem filterMap_answer?_events :
    (report.events registry earlier answers).filterMap LogEvent.answer?
      = answers.take (report.submitted registry).length := by
  have told : ∀ (violations : List Violation) (answers : List Answer),
      (List.zipWith (Answer.event report.path) violations answers).filterMap LogEvent.answer?
        = answers.take violations.length := by
    intro violations
    induction violations with
    | nil => intro answers; rfl
    | cons violation violations inductionHypothesis =>
        intro answers
        cases answers with
        | nil => rfl
        | cons answer answers =>
            have kept : (Answer.event report.path violation answer).answer? = some answer := by
              cases answer <;> rfl
            rw [List.zipWith_cons_cons, List.filterMap_cons_some kept, inductionHypothesis,
              List.length_cons, List.take_succ_cons]
  unfold FileReport.events
  split
  · rw [List.filterMap_append, told]
    split <;> rfl
  · rename_i untracked
    simp [FileReport.submitted, untracked, LogEvent.answer?]

/-- A tracked report that does not measure its file is a repetition. -/
theorem countP_warn_events :
    (report.events registry earlier answers).countP (·.level == .warn)
      = if report.isTracked registry ∧ report.file ∈ earlier.map FileReport.file then 1
        else 0 := by
  have silent : (List.zipWith (Answer.event report.path) (report.submitted registry)
      answers).countP (·.level == .warn) = 0 := by
    rw [List.countP_eq_zero]
    intro event inside
    obtain ⟨violation, answer, rfl⟩ := mem_zipWith_event inside
    cases answer <;> simp [Answer.event, LogEvent.level]
  unfold FileReport.events
  by_cases tracked : report.isTracked registry = true
  · rw [if_pos tracked, List.countP_append, silent, Nat.add_zero]
    by_cases known : report.file ∈ earlier.map FileReport.file
    · rw [if_pos known, if_pos ⟨tracked, known⟩]
      rfl
    · rw [if_neg known, if_neg fun both => known both.2]
      rfl
  · rw [if_neg tracked, if_neg fun both => tracked both.1]
    rfl

/-- No event of a report is an information. -/
theorem countP_info_events :
    (report.events registry earlier answers).countP (·.level == .info) = 0 := by
  rw [List.countP_eq_zero]
  intro event inside
  unfold FileReport.events at inside
  split at inside
  · rcases List.mem_append.mp inside with repeats | told
    · split at repeats
      · rw [List.mem_singleton.mp repeats]
        simp [LogEvent.level]
      · contradiction
    · obtain ⟨violation, answer, rfl⟩ := mem_zipWith_event told
      cases answer <;> simp [Answer.event, LogEvent.level]
  · rw [List.mem_singleton.mp inside]
    simp [LogEvent.level]

theorem filterMap_untracked?_eventsAfter :
    (eventsAfter registry earlier reports answers).filterMap LogEvent.untracked?
      = (reports.filter (!·.isTracked registry)).map FileReport.path := by
  induction reports generalizing earlier answers with
  | nil => rfl
  | cons report more inductionHypothesis =>
      rw [eventsAfter, List.filterMap_append, filterMap_untracked?_events, inductionHypothesis]
      by_cases tracked : report.isTracked registry = true <;> simp [tracked]

theorem filterMap_answer?_eventsAfter :
    (eventsAfter registry earlier reports answers).filterMap LogEvent.answer?
      = answers.take (reports.flatMap (FileReport.submitted registry)).length := by
  induction reports generalizing earlier answers with
  | nil => rfl
  | cons report more inductionHypothesis =>
      rw [eventsAfter, List.filterMap_append, filterMap_answer?_events, inductionHypothesis,
        ← List.take_add, List.flatMap_cons, List.length_append]

/-- Each tracked report either measures its file or is told as a repetition. -/
theorem countP_warn_eventsAfter :
    (eventsAfter registry earlier reports answers).countP (·.level == .warn)
        + ((callsAfter repository registry earlier reports).filterMap Call.measure?).length
      = reports.countP (·.isTracked registry) := by
  induction reports generalizing earlier answers with
  | nil => rfl
  | cons report more inductionHypothesis =>
      have later := @inductionHypothesis (earlier ++ [report])
        (answers.drop (report.submitted registry).length)
      rw [eventsAfter, callsAfter, List.countP_append, List.filterMap_append, List.length_append,
        countP_warn_events, length_measures, List.countP_cons, ← later]
      by_cases tracked : report.isTracked registry = true
      · by_cases known : report.file ∈ earlier.map FileReport.file <;>
          simp only [tracked, known, not_true, not_false_iff, and_self, and_false,
            if_true, if_false] <;>
          omega
      · simp only [tracked, Bool.false_eq_true, false_and, if_false]
        omega

theorem countP_info_eventsAfter :
    (eventsAfter registry earlier reports answers).countP (·.level == .info) = 0 := by
  induction reports generalizing earlier answers with
  | nil => rfl
  | cons report more inductionHypothesis =>
      rw [eventsAfter, List.countP_append, countP_info_events, inductionHypothesis]

theorem length_issues_callsAfter :
    ((callsAfter repository registry earlier reports).filterMap Call.issue?).length
      = (reports.flatMap (FileReport.submitted registry)).length := by
  rw [filterMap_issue?_callsAfter]
  induction reports with
  | nil => rfl
  | cons report more inductionHypothesis =>
      rw [List.flatMap_cons, List.flatMap_cons, List.length_append, List.length_append,
        length_issues, inductionHypothesis]

/-- The violations that are handed over are those of the tracked reports. -/
theorem flatMap_submitted :
    reports.flatMap (FileReport.submitted registry)
      = (reports.filter (·.isTracked registry)).flatMap FileReport.violations := by
  induction reports with
  | nil => rfl
  | cons report more inductionHypothesis =>
      rw [List.flatMap_cons, inductionHypothesis, FileReport.submitted]
      by_cases tracked : report.isTracked registry = true <;> simp [tracked]

end Events

/-! ## The account -/

/-- The counts of a run agree with the reports, with the calls and with the
answers to them. -/
structure Summary.Faithful
    (registry : FileRegistry η)
    (reports : List FileReport)
    (calls : List (Call η))
    (answers : List Answer)
    (summary : Summary) :
    Prop where
  reported : summary.filesReported = reports.length
  matched : summary.filesMatched = (reports.filter (·.isTracked registry)).length
  skipped : summary.filesSkipped = (reports.filter (!·.isTracked registry)).length
  split : summary.filesReported = summary.filesMatched + summary.filesSkipped
  measures : summary.metricsApplied = (calls.filterMap Call.measure?).length
  /-- Every matched file is measured once, in whatever spelling it is reported. -/
  files : summary.metricsApplied
    = ((reports.filter (·.isTracked registry)).map FileReport.file).dedup.length
  applied : summary.issuesApplied = answers.countP (·.isAccepted)
  rejected : summary.issuesRejected = answers.countP (!·.isAccepted)
  issues : summary.issuesApplied + summary.issuesRejected
    = ((reports.filter (·.isTracked registry)).flatMap FileReport.violations).length

/-- The log of a run tells each report, each repetition and each answer once and
in order, and the counts last. -/
structure Summary.FaithfulLog
    (registry : FileRegistry η)
    (reports : List FileReport)
    (calls : List (Call η))
    (answers : List Answer)
    (summary : Summary)
    (log : List LogEvent) :
    Prop where
  events : log = eventsFor registry reports answers ++ [summary.closingEvent]
  skipped : log.filterMap LogEvent.untracked?
    = (reports.filter (!·.isTracked registry)).map FileReport.path
  /-- Of the matched reports, those that measured no file are told as repetitions. -/
  repetitions : log.countP (·.level == .warn) + summary.metricsApplied = summary.filesMatched
  /-- Each call with an issue is told once, with the answer to it. -/
  told : log.filterMap LogEvent.answer? = answers
  answered : answers.length = (calls.filterMap Call.issue?).length
  finished : log.countP (·.level == .info) = 1
  /-- The log ends with five of the counts, each under its name. -/
  closing : log.getLast?.map LogEvent.fields = some
    [("matched", .number summary.filesMatched), ("skipped", .number summary.filesSkipped),
      ("metrics", .number summary.metricsApplied), ("issues", .number summary.issuesApplied),
      ("rejected", .number summary.issuesRejected)]
  /-- Each count is also the number of the lines with its wording. -/
  skipLines : log.countP (·.message == "No tracked file for report, skipping")
    = summary.filesSkipped
  repetitionLines :
    log.countP (·.message == "File reported more than once, keeping its first NCLOC")
        + summary.metricsApplied
      = summary.filesMatched
  savedLines : log.countP (·.message == "Saved issue") = summary.issuesApplied
  rejectedLines : log.countP (fun event =>
      event.message == "Host declined issue" || event.message == "Can't add issue")
    = summary.issuesRejected
  closingLines : log.countP (·.message == "Ingested analyzer report") = 1

section Account

variable {sink : Sink σ η} {repository : String} {registry : FileRegistry η}
  {reports : List FileReport} {state : σ}

theorem remembers_nothing {total : Nat} :
    (⟨state, .start total, [], []⟩ : Progress σ).Remembers registry [] := by
  simp [Progress.Remembers]

/-- The loop starts with nothing remembered and nothing counted. -/
theorem tallies_ingest :
    (reports.foldl (Progress.take sink repository registry)
      ⟨state, .start reports.length, [], []⟩).Tallies registry reports.length reports := by
  have start : Progress.Tallies registry reports.length []
      (⟨state, .start reports.length, [], []⟩ : Progress σ) := by
    refine ⟨rfl, rfl, rfl, rfl, List.nodup_nil, ?_⟩
    simp
  exact start.foldl_take

theorem log_ingest :
    let run := ingest sink repository registry reports state
    run.log = eventsFor registry reports
        (sink.answers state (callsFor repository registry reports))
      ++ [run.summary.closingEvent] := by
  intro run
  exact congrArg (· ++ [run.summary.closingEvent]) (Progress.log_foldl_take remembers_nothing)

theorem length_answers_ingest :
    (sink.answers state (callsFor repository registry reports)).length
      = (reports.flatMap (FileReport.submitted registry)).length := by
  rw [Sink.length_answers, callsFor, length_issues_callsAfter]

theorem faithful_ingest :
    (ingest sink repository registry reports state).summary.Faithful registry reports
      (callsFor repository registry reports)
      (sink.answers state (callsFor repository registry reports)) := by
  let answers := sink.answers state (callsFor repository registry reports)
  let progress := reports.foldl (Progress.take sink repository registry)
    ⟨state, .start reports.length, [], []⟩
  have tallies : progress.Tallies registry reports.length reports := tallies_ingest
  obtain ⟨reported, matched, skipped, metrics, distinct, measured⟩ := tallies
  have counted : progress.measured.length
      = 0 + ((callsFor repository registry reports).filterMap Call.measure?).length :=
    Progress.length_measured_foldl_take remembers_nothing
  have applied : (ingest sink repository registry reports state).summary.answered true = _ :=
    answered_ingest
  have rejected : (ingest sink repository registry reports state).summary.answered false = _ :=
    answered_ingest
  simp only [Summary.answered, if_true, Bool.false_eq_true, if_false, beq_true, beq_false]
    at applied rejected
  have all : answers.length = answers.countP (·.isAccepted) + answers.countP (!·.isAccepted) := by
    simpa using List.length_eq_countP_add_countP Answer.isAccepted (l := answers)
  have split : reports.length
      = reports.countP (·.isTracked registry) + reports.countP (!·.isTracked registry) := by
    simpa using List.length_eq_countP_add_countP (FileReport.isTracked registry) (l := reports)
  -- Neither list repeats a file, and both have the same ones.
  have files : progress.measured.Perm
      ((reports.filter (·.isTracked registry)).map FileReport.file).dedup := by
    rw [List.perm_ext_iff_of_nodup distinct (List.nodup_dedup _)]
    intro name
    rw [measured, List.mem_dedup]
  exact {
    reported := reported
    matched := matched.trans (List.countP_eq_length_filter)
    skipped := skipped.trans (List.countP_eq_length_filter)
    split := reported.trans (split.trans (congrArg₂ _ matched.symm skipped.symm))
    measures := metrics.trans (counted.trans (Nat.zero_add _))
    files := metrics.trans files.length_eq
    applied := applied
    rejected := rejected
    issues := by
      rw [applied, rejected, ← all, ← flatMap_submitted]
      exact length_answers_ingest }

/-! ## What the counts depend on -/

/-- The files of the reports that match one, in order and as often as reported. -/
def matchedFiles (registry : FileRegistry η) (reports : List FileReport) : List String :=
  (reports.filter (·.isTracked registry)).map FileReport.file

theorem Summary.Faithful.metrics_eq {calls : List (Call η)} {answers : List Answer}
    {summary : Summary} (faithful : summary.Faithful registry reports calls answers) :
    summary.metricsApplied = (matchedFiles registry reports).toFinset.card :=
  faithful.files.trans (List.card_toFinset _).symm

attribute [ext] Summary

/-- The counts depend on the number of reports, on the files that match, in any
order, and on how many issues are taken. -/
theorem summary_ingest_eq
    {others : List FileReport}
    (sameLength : reports.length = others.length)
    (sameFiles : (matchedFiles registry reports).Perm (matchedFiles registry others))
    (sameAnswers : ∀ applied,
      (ingest sink repository registry reports state).summary.answered applied
        = (ingest sink repository registry others state).summary.answered applied) :
    (ingest sink repository registry reports state).summary
      = (ingest sink repository registry others state).summary := by
  have counts := @faithful_ingest _ _ sink repository registry reports state
  have otherCounts := @faithful_ingest _ _ sink repository registry others state
  have matched : (reports.filter (·.isTracked registry)).length
      = (others.filter (·.isTracked registry)).length := by
    simpa [matchedFiles] using sameFiles.length_eq
  ext
  case filesReported => rw [counts.reported, otherCounts.reported, sameLength]
  case filesMatched => rw [counts.matched, otherCounts.matched, matched]
  case filesSkipped =>
    have all := counts.split
    have otherAll := otherCounts.split
    rw [counts.reported, counts.matched] at all
    rw [otherCounts.reported, otherCounts.matched] at otherAll
    omega
  case metricsApplied =>
    rw [counts.metrics_eq, otherCounts.metrics_eq, List.toFinset_eq_of_perm _ _ sameFiles]
  case issuesApplied => exact sameAnswers true
  case issuesRejected => exact sameAnswers false

end Account

/-- The summary and the log of a run are faithful to what happened, on a host
that answers in any way: every report is counted as matched or as skipped, every
measure and every answer is counted once, and the log tells the same, in order,
with the counts at its end. -/
theorem ingest_accounts
    (sink : Sink σ η)
    (repository : String)
    (registry : FileRegistry η)
    (reports : List FileReport)
    (state : σ) :
    let run := ingest sink repository registry reports state
    let calls := (ingest sink.traced repository registry reports (state, [])).sink.2
    let answers := sink.answers state calls
    run.summary.Faithful registry reports calls answers
    ∧ run.summary.FaithfulLog registry reports calls answers run.log := by
  intro run calls answers
  have made : calls = callsFor repository registry reports := by
    simp only [calls, ingest_traced]
  have faithful : run.summary.Faithful registry reports calls answers := by
    simp only [answers, made]
    exact faithful_ingest
  have log : run.log = eventsFor registry reports answers ++ [run.summary.closingEvent] := by
    simp only [answers, made]
    exact log_ingest
  have answered : answers.length = (reports.flatMap (FileReport.submitted registry)).length := by
    simp only [answers, made]
    exact length_answers_ingest
  have skipped : run.log.filterMap LogEvent.untracked?
      = (reports.filter (!·.isTracked registry)).map FileReport.path := by
    rw [log, List.filterMap_append, eventsFor, filterMap_untracked?_eventsAfter]
    exact List.append_nil _
  have repetitions : run.log.countP (·.level == .warn) + run.summary.metricsApplied
      = run.summary.filesMatched := by
    have each : (eventsAfter registry [] reports answers).countP (·.level == .warn)
          + ((callsAfter repository registry [] reports).filterMap Call.measure?).length
        = reports.countP (·.isTracked registry) := countP_warn_eventsAfter
    have matched : run.summary.filesMatched = reports.countP (·.isTracked registry) :=
      faithful.matched.trans List.countP_eq_length_filter.symm
    rw [← callsFor, ← made, ← faithful.measures, ← matched] at each
    have last : [run.summary.closingEvent].countP (·.level == .warn) = 0 := rfl
    rwa [log, List.countP_append, eventsFor, last, Nat.add_zero]
  have told : run.log.filterMap LogEvent.answer? = answers := by
    rw [log, List.filterMap_append, eventsFor, filterMap_answer?_eventsAfter, ← answered,
      List.take_length]
    exact List.append_nil _
  have finished : run.log.countP (·.level == .info) = 1 := by
    rw [log, List.countP_append, eventsFor, countP_info_eventsAfter]
    rfl
  refine ⟨faithful, {
    events := log
    skipped
    repetitions
    told
    answered := Sink.length_answers calls
    finished
    closing := by rw [log, List.getLast?_concat]; rfl
    skipLines := ?skipLines
    repetitionLines := by simpa only [LogEvent.level_beq_warn] using repetitions
    savedLines := ?savedLines
    rejectedLines := ?rejectedLines
    closingLines := by simpa only [LogEvent.level_beq_info] using finished }⟩
  case skipLines =>
    simp only [← LogEvent.isSome_untracked?]
    rw [← List.length_filterMap_eq_countP, skipped, List.length_map, faithful.skipped]
  case savedLines =>
    simp only [← LogEvent.getD_isAccepted]
    rw [← List.countP_filterMap, told, faithful.applied]
  case rejectedLines =>
    simp only [← LogEvent.getD_not_isAccepted]
    rw [← List.countP_filterMap, told, faithful.rejected]

end Findings
