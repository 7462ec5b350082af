import Mathlib.Data.List.Perm.Basic
import Findings.Proofs.Ingest.Account
import Findings.Proofs.Ingest.Range

/-!
Contract: runs over the same reports in another order.

Owns:
- `Reordered`, lists with the same reports about each file in the same order;
- `HoldsAlike`, two recording hosts that hold the same for a file, which calls for
  other files do not change and calls for the file keep;
- the law that what a host holds for a file after a run depends on the reports
  about that file alone, and that reports in another order count the same and
  leave the same for each file.

The entries of different files stand in one list, and a measure moves to its end,
so two orders leave different lists.  Hosts are therefore compared file by file.

Does not own: reports about one file in another order.
-/

namespace Findings

/-! ## Lists with the same parts -/

theorem perm_of_filter_eq {α : Type} [DecidableEq α] {key : α → String} {items others : List α}
    (same : ∀ name, items.filter (key · == name) = others.filter (key · == name)) :
    items.Perm others := by
  rw [List.perm_iff_count]
  intro item
  have counts := congrArg (List.count item) (same (key item))
  rwa [List.count_filter (by simp), List.count_filter (by simp)] at counts

/-- The same reports, in an order that agrees for each file. -/
def Reordered (reports others : List FileReport) : Prop :=
  ∀ file, reports.filter (·.file == file) = others.filter (·.file == file)

theorem Reordered.perm {reports others : List FileReport} (reordered : Reordered reports others) :
    reports.Perm others :=
  perm_of_filter_eq reordered

/-- Only the files that are reported have to be looked at. -/
theorem reordered_iff {reports others : List FileReport} :
    Reordered reports others
      ↔ ∀ file ∈ (reports ++ others).map FileReport.file,
          reports.filter (·.file == file) = others.filter (·.file == file) := by
  constructor
  · exact fun reordered file _ => reordered file
  · intro agree file
    by_cases reported : file ∈ (reports ++ others).map FileReport.file
    · exact agree file reported
    · have nothing : ∀ report ∈ reports ++ others, ¬ (report.file == file) = true := by
        intro report listed about
        exact reported (List.mem_map.mpr ⟨report, listed, by simpa using about⟩)
      rw [List.filter_eq_nil_iff.mpr fun report listed =>
          nothing report (List.mem_append_left _ listed),
        List.filter_eq_nil_iff.mpr fun report listed =>
          nothing report (List.mem_append_right _ listed)]

instance (reports others : List FileReport) : Decidable (Reordered reports others) :=
  decidable_of_iff _ reordered_iff.symm

/-! ## What a host holds for a file -/

def Call.file {η : Type} : Call η → η
  | .saveMeasure file _ _ => file
  | .addIssue file _ => file

namespace RecordingHost

/-- Two hosts with the same files hold the same measures and issues for a file, in
the same order. -/
structure HoldsAlike (file : String) (left right : RecordingHost) : Prop
    extends SameFiles left right where
  measures : left.measures.filter (·.file == file) = right.measures.filter (·.file == file)
  issues : left.issues.filter (·.file == file) = right.issues.filter (·.file == file)

variable {file repository language : String} {state left right : RecordingHost}
  {call : Call String} {calls : List (Call String)} {registry : FileRegistry String}
  {earlier reports others : List FileReport} {report : FileReport}

theorem HoldsAlike.refl : HoldsAlike file state state :=
  ⟨.refl, rfl, rfl⟩

theorem HoldsAlike.trans {middle : RecordingHost} (first : HoldsAlike file left middle)
    (second : HoldsAlike file middle right) : HoldsAlike file left right :=
  ⟨first.toSameFiles.trans second.toSameFiles, first.measures.trans second.measures,
    first.issues.trans second.issues⟩

theorem HoldsAlike.symm (alike : HoldsAlike file left right) : HoldsAlike file right left :=
  ⟨alike.toSameFiles.symm, alike.measures.symm, alike.issues.symm⟩

theorem HoldsAlike.measuresOf {metric : Metric} (alike : HoldsAlike file left right) :
    left.measuresOf file metric = right.measuresOf file metric := by
  have kept := congrArg (List.filter (·.metric == metric)) alike.measures
  simpa only [List.filter_filter, RecordingHost.measuresOf, Bool.and_comm] using kept

/-! ## One call -/

theorem filter_measures_saveMeasure {metric : Metric} {value : Int64} :
    (state.saveMeasure file metric value).measures.filter (·.file == file)
      = (state.measures.filter (·.file == file)).filter (!·.metric == metric)
        ++ [⟨file, metric, value⟩] := by
  have same : ∀ measure ∈ state.measures,
      (measure.file == file && !(measure.file == file && measure.metric == metric))
        = (!measure.metric == metric && measure.file == file) := by
    grind
  simp only [saveMeasure, List.filter_append, List.filter_filter, List.filter_congr same]
  simp

theorem filter_measures_saveMeasure_of_ne {name : String} {metric : Metric} {value : Int64}
    (apart : name ≠ file) :
    (state.saveMeasure name metric value).measures.filter (·.file == file)
      = state.measures.filter (·.file == file) := by
  have kept : ∀ measure ∈ state.measures,
      (measure.file == file && !(measure.file == name && measure.metric == metric))
        = (measure.file == file) := by
    grind
  simp only [saveMeasure, List.filter_append, List.filter_filter, List.filter_congr kept]
  simp [apart]

theorem filter_recorded?_of_ne {handed : String × NewIssue} (apart : handed.1 ≠ file) :
    (state.recorded? handed).toList.filter (·.file == file) = [] := by
  unfold recorded?
  split
  · simp [apart]
  · rfl

theorem holdsAlike_perform_of_ne (apart : call.file ≠ file) :
    HoldsAlike file (host.perform state call) state := by
  cases call with
  | saveMeasure name metric value =>
    exact ⟨sameFiles_perform, filter_measures_saveMeasure_of_ne apart, rfl⟩
  | addIssue name issue =>
    refine ⟨sameFiles_perform, ?_, ?_⟩
    · change (state.addIssue name issue).2.measures.filter _ = _
      rw [addIssue_snd]
    · rw [issues_perform, List.filter_append, Call.issue?_addIssue, Option.bind_some,
        filter_recorded?_of_ne apart, List.append_nil]

/-- A call keeps hosts alike that are alike for the file. -/
theorem HoldsAlike.perform (alike : HoldsAlike file left right) :
    HoldsAlike file (host.perform left call) (host.perform right call) := by
  have files : SameFiles (host.perform left call) (host.perform right call) :=
    sameFiles_perform.trans (alike.toSameFiles.trans sameFiles_perform.symm)
  refine ⟨files, ?_, ?_⟩
  · cases call with
    | saveMeasure name metric value =>
      change (left.saveMeasure name metric value).measures.filter _
        = (right.saveMeasure name metric value).measures.filter _
      by_cases own : name = file
      · subst own
        rw [filter_measures_saveMeasure, filter_measures_saveMeasure, alike.measures]
      · rw [filter_measures_saveMeasure_of_ne own, filter_measures_saveMeasure_of_ne own,
          alike.measures]
    | addIssue name issue =>
      change (left.addIssue name issue).2.measures.filter _
        = (right.addIssue name issue).2.measures.filter _
      rw [addIssue_snd, addIssue_snd, alike.measures]
  · rw [issues_perform, issues_perform, List.filter_append, List.filter_append, alike.issues,
      alike.toSameFiles.recorded?]

/-! ## Calls for one file -/

/-- After calls a host holds for a file what the calls for this file make it hold. -/
theorem HoldsAlike.replay (alike : HoldsAlike file left right) :
    HoldsAlike file (host.replay left calls)
      (host.replay right (calls.filter (·.file == file))) := by
  -- A call for another file is made on the left side only.
  induction calls generalizing left right with
  | nil => exact alike
  | cons call calls inductionHypothesis =>
    rw [Sink.replay_cons, List.filter_cons]
    by_cases own : call.file = file
    · rw [if_pos (by simpa using own), Sink.replay_cons]
      exact inductionHypothesis alike.perform
    · rw [if_neg (by simpa using own)]
      exact inductionHypothesis ((holdsAlike_perform_of_ne own).trans alike)

theorem get?_of_mem_calls (made : call ∈ report.calls repository registry earlier) :
    registry.get? report.path = some call.file := by
  unfold FileReport.calls at made
  cases found : registry.get? report.path with
  | none => simp [found] at made
  | some handle =>
    rw [found] at made
    rcases List.mem_append.mp made with measure | issue
    · split at measure
      · contradiction
      · rw [List.mem_singleton.mp measure]
        rfl
    · obtain ⟨violation, -, rfl⟩ := List.mem_map.mp issue
      rfl

theorem filter_calls_of_ne
    (selfKeyed : registry.SelfKeyed)
    (apart : report.file ≠ normalizePath file) :
    (report.calls repository registry earlier).filter (·.file == file) = [] := by
  rw [List.filter_eq_nil_iff]
  intro call made own
  obtain rfl : call.file = file := by simpa using own
  exact apart (selfKeyed _ _ (get?_of_mem_calls made)).symm

/-- Only earlier reports about the same file matter to a report. -/
theorem calls_filter :
    report.calls repository registry (earlier.filter (·.file == report.file))
      = report.calls repository registry earlier := by
  have known : report.file ∈ (earlier.filter (·.file == report.file)).map FileReport.file
      ↔ report.file ∈ earlier.map FileReport.file := by
    simp [List.mem_map, List.mem_filter]
  rw [FileReport.calls, FileReport.calls]
  simp only [known]

/-- The calls for a file are among those for the reports about its path. -/
theorem filter_callsAfter (selfKeyed : registry.SelfKeyed) :
    (callsAfter repository registry earlier reports).filter (·.file == file)
      = (callsAfter repository registry (earlier.filter (·.file == normalizePath file))
          (reports.filter (·.file == normalizePath file))).filter (·.file == file) := by
  induction reports generalizing earlier with
  | nil => rfl
  | cons report more inductionHypothesis =>
    rw [callsAfter, List.filter_append, inductionHypothesis, List.filter_append]
    by_cases own : report.file = normalizePath file
    · have about : (report.file == normalizePath file) = true := by simpa using own
      have kept : (report :: more).filter (·.file == normalizePath file)
          = report :: more.filter (·.file == normalizePath file) := List.filter_cons_of_pos about
      have last : [report].filter (·.file == normalizePath file) = [report] :=
        List.filter_cons_of_pos about
      rw [kept, last, callsAfter, List.filter_append, ← own, calls_filter]
    · have about : ¬ (report.file == normalizePath file) = true := by simpa using own
      have dropped : (report :: more).filter (·.file == normalizePath file)
          = more.filter (·.file == normalizePath file) := List.filter_cons_of_neg about
      have nothing : [report].filter (·.file == normalizePath file) = [] :=
        List.filter_cons_of_neg about
      rw [dropped, nothing, filter_calls_of_ne selfKeyed own, List.append_nil, List.nil_append]

/-! ## Runs over reordered reports -/

theorem selfKeyed_sourceFiles :
    (FileRegistry.ofFiles (state.sourceFiles language)).SelfKeyed := by
  unfold sourceFiles
  split
  · exact selfKeyed_registry
  · intro key path found
    contradiction

/-- What a run leaves for a file is what the reports about its path leave. -/
theorem holdsAlike_ingest_filter (selfKeyed : registry.SelfKeyed) :
    HoldsAlike file
      (ingest host.toSink repository registry reports state).sink
      (ingest host.toSink repository registry
        (reports.filter (·.file == normalizePath file)) state).sink := by
  let about := reports.filter (·.file == normalizePath file)
  have calls : (callsFor repository registry reports).filter (·.file == file)
      = (callsFor repository registry about).filter (·.file == file) :=
    filter_callsAfter selfKeyed
  have all := @HoldsAlike.replay file state state (callsFor repository registry reports) .refl
  have own := @HoldsAlike.replay file state state (callsFor repository registry about) .refl
  rw [calls] at all
  rw [ingest_sink, ingest_sink]
  exact all.trans own.symm

theorem holdsAlike_ingest (selfKeyed : registry.SelfKeyed) (reordered : Reordered reports others) :
    HoldsAlike file
      (ingest host.toSink repository registry reports state).sink
      (ingest host.toSink repository registry others state).sink := by
  have left := @holdsAlike_ingest_filter file repository state registry reports selfKeyed
  have right := @holdsAlike_ingest_filter file repository state registry others selfKeyed
  rw [reordered] at left
  exact left.trans right.symm

theorem summary_ingest_reordered (reordered : Reordered reports others) :
    (ingest host.toSink repository registry reports state).summary
      = (ingest host.toSink repository registry others state).summary := by
  apply summary_ingest_eq reordered.perm.length_eq
  · exact (reordered.perm.filter _).map _
  · intro applied
    rw [answered_ingest, answered_ingest, countP_answers, countP_answers, callsFor, callsFor,
      filterMap_issue?_callsAfter, filterMap_issue?_callsAfter]
    exact (reordered.perm.flatMap_right _).countP_eq _

/-- The order of reports about different files does not matter.  Over the files of
a recording host, two runs that take in the same reports, in orders that agree for
each file, count the same.  They leave hosts with the same files, which hold for
each file the same value and the same issues in the same order, so that the lists
of the two differ at most in how the entries of different files stand. -/
theorem ingest_reordered
    (state : RecordingHost)
    (language repository : String)
    (reports others : List FileReport)
    (reordered : Reordered reports others) :
    let registry : FileRegistry String := .ofFiles (state.sourceFiles language)
    let left := ingest host.toSink repository registry reports state
    let right := ingest host.toSink repository registry others state
    left.summary = right.summary
    ∧ (∀ file, HoldsAlike file left.sink right.sink)
    ∧ (∀ file, left.sink.measuresOf file .linesOfCode = right.sink.measuresOf file .linesOfCode)
    ∧ left.sink.measures.Perm right.sink.measures
    ∧ left.sink.issues.Perm right.sink.issues := by
  intro registry left right
  have alike : ∀ file, HoldsAlike file left.sink right.sink :=
    fun _ => holdsAlike_ingest selfKeyed_sourceFiles reordered
  exact ⟨summary_ingest_reordered reordered, alike, fun file => (alike file).measuresOf,
    perm_of_filter_eq fun file => (alike file).measures,
    perm_of_filter_eq fun file => (alike file).issues⟩

/-- Reports about two files in two orders, one of them about a file twice.  The
measures stand in another order, and each file has the same value and issues. -/
theorem ingest_reordered_twoFiles :
    let state : RecordingHost :=
      ⟨"go", ["a.go", "b.go"], [("a.go", 3)], [⟨"b.go", .linesOfCode, 1⟩], []⟩
    let first : FileReport := ⟨"a.go", 10, 0, [⟨"CC", "too complex", 5⟩]⟩
    let second : FileReport := ⟨"./a.go", 12, 0, [⟨"FN", "too long", 2⟩]⟩
    let other : FileReport := ⟨"b.go", 7, 0, [⟨"FN", "too long", 9⟩]⟩
    let run := fun reports =>
      ingest host.toSink "go-go" (.ofFiles (state.sourceFiles "Go")) reports state
    Reordered [first, other, second] [other, first, second]
    ∧ (run [first, other, second]).sink.measures ≠ (run [other, first, second]).sink.measures
    ∧ (run [other, first, second]).sink.measuresOf "a.go" .linesOfCode
      = [⟨"a.go", .linesOfCode, 10⟩]
    ∧ (run [other, first, second]).summary.issuesRejected = 1 := by
  intro state first second other run
  have reordered : Reordered [first, other, second] [other, first, second] := by decide
  obtain ⟨summary, -, values, -⟩ :=
    ingest_reordered state "Go" "go-go" [first, other, second] [other, first, second] reordered
  exact ⟨reordered, by decide, (values "a.go").symm.trans (by decide),
    (congrArg Summary.issuesRejected summary.symm).trans (by decide)⟩

end RecordingHost

end Findings
