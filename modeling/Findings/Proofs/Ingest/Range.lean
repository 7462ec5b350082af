import Mathlib
import Findings.Proofs.Host.Lines
import Findings.Proofs.Host.Readable
import Findings.Proofs.Ingest.Answers
import Findings.Proofs.Pass.Recording

/-!
Contract: findings beyond the end of their file.

Owns:
- the findings of reports with the files that they are about;
- the law of a run on a host that was made by a scan: a finding is rejected
  exactly if its line lies beyond the end of its file and is a number of 32
  bits, and every other finding is recorded;
- the findings without a usable line, which become findings about the whole
  file: those at no positive line, and those at a line of more than 32 bits.

A line of more than 32 bits lies beyond the end of every file that can be counted,
and yet nothing is rejected there: the number is gone before the host could compare
it.
-/

namespace Findings

/-- The line of an issue is missing where the reported number is not positive, or
has more than 32 bits. -/
theorem Violation.line?_eq_none_iff {violation : Violation} :
    violation.line? = none
      ↔ violation.sourceLine.toInt ≤ 0 ∨ UInt32.size ≤ violation.sourceLine.toInt := by
  simp only [Violation.line?, ite_eq_right_iff, reduceCtorEq, imp_false]
  omega

namespace RecordingHost

/-! ## Findings of reports -/

/-- The findings of reports that match a file, each with the path of the file. -/
def findings (state : RecordingHost) (reports : List FileReport) : List (String × Violation) :=
  reports.flatMap fun report =>
    match state.registry.get? report.path with
    | none => []
    | some path => report.violations.map fun violation => (path, violation)

/-- A finding lies beyond the last line of its file, at a line that an issue can
name. -/
def Beyond (state : RecordingHost) (found : String × Violation) : Prop :=
  ∃ last, state.lineCount? found.1 = some last
    ∧ last.toNat < found.2.sourceLine.toInt ∧ found.2.sourceLine.toInt < UInt32.size

def record (repository : String) (found : String × Violation) : RecordedIssue :=
  ⟨found.1, ⟨repository, found.2.ruleType⟩, found.2.description, found.2.line?⟩

variable {state : RecordingHost} {repository : String} {reports : List FileReport}
  {calls : List (Call String)} {applied : Bool}

theorem reaches_toIssue_iff {path : String} {violation : Violation} :
    state.Reaches path (violation.toIssue repository) ↔ ¬ state.Beyond (path, violation) := by
  unfold Reaches Beyond
  simp only [Violation.toIssue, Option.mem_def, not_exists, not_and]
  constructor
  · intro reaches last counted past small
    have usable : violation.line? = some (UInt32.ofNat violation.sourceLine.toInt.toNat) :=
      if_pos ⟨by omega, small⟩
    have within := UInt32.le_iff_toNat_le.mp (reaches _ usable last counted)
    rw [UInt32.toNat_ofNat_of_lt' (by omega)] at within
    omega
  · intro kept line usable last counted
    obtain ⟨same, positive⟩ := Violation.line?_eq_some_iff.mp usable
    have small := line.toNat_lt_size
    have within := kept last counted
    rw [UInt32.le_iff_toNat_le]
    omega

instance (state : RecordingHost) (found : String × Violation) :
    Decidable (state.Beyond found) :=
  decidable_of_iff (¬ state.Reaches found.1 (found.2.toIssue ""))
    (not_congr reaches_toIssue_iff |>.trans not_not)

theorem flatMap_issues :
    reports.flatMap (FileReport.issues repository state.registry)
      = (state.findings reports).map fun found => (found.1, found.2.toIssue repository) := by
  rw [findings, List.map_flatMap]
  congr 1
  funext report
  unfold FileReport.issues
  cases state.registry.get? report.path with
  | none => rfl
  | some path => simp

/-- A finding that is not beyond the end is recorded as it is. -/
theorem recorded?_toIssue {found : String × Violation} :
    state.recorded? (found.1, found.2.toIssue repository)
      = if state.Beyond found then none else some (record repository found) := by
  unfold recorded?
  by_cases beyond : state.Beyond found
  · rw [if_pos beyond, if_neg (fun reaches => reaches_toIssue_iff.mp reaches beyond)]
  · rw [if_neg beyond, if_pos (reaches_toIssue_iff.mpr beyond)]
    rfl

/-! ## Answers of a recording host -/

theorem isAccepted_addIssue {path : String} {issue : NewIssue} :
    (state.addIssue path issue).1.isAccepted = decide (state.Reaches path issue) := by
  unfold addIssue
  cases refused : state.beyond? path issue with
  | none => simp [Answer.isAccepted, beyond?_eq_none_iff.mp refused]
  | some place =>
      have short : ¬ state.Reaches path issue := by
        rw [← beyond?_eq_none_iff, refused]
        simp
      simp [Answer.isAccepted, short]

/-- What a recording host answers depends on its files alone. -/
theorem countP_answers :
    (host.toSink.answers state calls).countP (·.isAccepted == applied)
      = (calls.filterMap Call.issue?).countP fun handed =>
          decide (state.Reaches handed.1 handed.2) == applied := by
  induction calls generalizing state with
  | nil => rfl
  | cons call calls inductionHypothesis =>
      have same : ∀ handed : String × NewIssue,
          (host.toSink.perform state call).Reaches handed.1 handed.2
            ↔ state.Reaches handed.1 handed.2 := by
        intro handed
        simp only [Reaches, lineCount?, sameFiles_perform.lineCounts]
      rw [Sink.answers_cons, List.countP_append, inductionHypothesis]
      simp only [same]
      cases call with
      | saveMeasure file metric value =>
          have silent : (Call.saveMeasure file metric value).issue? = none := rfl
          rw [List.filterMap_cons_none silent]
          simp [Sink.answers]
      | addIssue path issue =>
          have handed : (Call.addIssue path issue).issue? = some (path, issue) := rfl
          rw [List.filterMap_cons_some handed, List.countP_cons, Nat.add_comm]
          simp [Sink.answers, host, isAccepted_addIssue, List.countP_cons]

theorem answered_ingest_host :
    (ingest host.toSink repository state.registry reports state).summary.answered applied
      = (state.findings reports).countP fun found =>
          decide (¬ state.Beyond found) == applied := by
  rw [answered_ingest, countP_answers, callsFor, filterMap_issue?_callsAfter, flatMap_issues,
    List.countP_map]
  simp only [Function.comp_def, reaches_toIssue_iff]

theorem issues_ingest_host :
    (ingest host.toSink repository state.registry reports state).sink.issues
      = state.issues
        ++ ((state.findings reports).filter (¬ state.Beyond ·)).map (record repository) := by
  rw [ingest_sink, issues_replay, callsFor, filterMap_issue?_callsAfter, flatMap_issues,
    List.filterMap_map]
  congr 1
  simp only [Function.comp_def, recorded?_toIssue]
  induction state.findings reports with
  | nil => rfl
  | cons found more inductionHypothesis =>
      by_cases beyond : state.Beyond found <;> simp [beyond, inductionHypothesis]

/-! ## Runs on scanned files -/

/-- A finding lies beyond the end of a file with some content, by the number of lines
that fits into 32 bits. -/
def BeyondIn (content : List UInt8) (found : String × Violation) : Prop :=
  ((contentLines content).length % UInt32.size : Nat) < found.2.sourceLine.toInt
    ∧ found.2.sourceLine.toInt < UInt32.size

/-- The lines of a file that is not too big are all counted. -/
theorem beyondIn_iff_of_short
    {content : List UInt8}
    {found : String × Violation}
    (short : content.length < UInt32.size - 1) :
    BeyondIn content found
      ↔ (contentLines content).length < found.2.sourceLine.toInt
        ∧ found.2.sourceLine.toInt < UInt32.size := by
  rw [BeyondIn, length_contentLines_mod short]

/-- The file of a finding is a file that was read, whose lines the host compares. -/
theorem beyond_iff_of_scanned
    {world : World}
    {top : String}
    {style : PathStyle}
    {tracked : List (List String)}
    {entry : String × Violation}
    (scanned : Scanned world top style tracked state)
    (inside : entry ∈ state.findings reports) :
    ∃ names ∈ tracked, ∃ content, trackedPath style top names = entry.1
      ∧ world.read (belowPath top names) = .ok content
      ∧ (state.Beyond entry ↔ BeyondIn content entry) := by
  obtain ⟨report, -, listed⟩ := List.mem_flatMap.mp inside
  cases matched : state.registry.get? report.path with
  | none => simp [matched] at listed
  | some path =>
      rw [matched] at listed
      obtain ⟨violation, -, rfl⟩ := List.mem_map.mp listed
      have listed := (of_registry_get? matched).1
      obtain ⟨names, known, content, named, held, counted⟩ := scanned.lines path listed
      refine ⟨names, known, content, named, held, ?_⟩
      simp [Beyond, BeyondIn, counted, toNat_lineCount]

/-- A run on a host that was just made by a scan rejects the findings beyond the
last line of their file, and records all others in order: as findings about the
whole file where the line is not positive, and also where it has more than 32
bits.  The lines of a file are counted in 32 bits, so all of them count unless the
file has that many octets. -/
theorem ingest_scanned
    (world : World)
    (language top : String)
    (suffixes : List String)
    (style : PathStyle)
    (start : RecordingHost)
    (made : scan world language top suffixes style = .ok start)
    (repository : String)
    (reports : List FileReport) :
    let run := ingest host.toSink repository start.registry reports start
    let found := start.findings reports
    (∃ node, world.scanned top = .ok node
      ∧ ∀ entry ∈ found, ∃ names ∈ node.tracked top suffixes, ∃ content,
        trackedPath style top names = entry.1
        ∧ world.read (belowPath top names) = .ok content
        ∧ (start.Beyond entry ↔ BeyondIn content entry)
        ∧ (content.length < UInt32.size - 1 →
          (start.Beyond entry
            ↔ (contentLines content).length < entry.2.sourceLine.toInt
              ∧ entry.2.sourceLine.toInt < UInt32.size)))
    ∧ run.summary.issuesRejected = found.countP (start.Beyond ·)
    ∧ run.summary.issuesApplied = found.countP (¬ start.Beyond ·)
    ∧ run.sink.issues = (found.filter (¬ start.Beyond ·)).map (record repository)
    ∧ ∀ entry, (record repository entry).line = none
        ↔ entry.2.sourceLine.toInt ≤ 0 ∨ UInt32.size ≤ entry.2.sourceLine.toInt := by
  intro run found
  obtain ⟨node, started, -, scanned⟩ := scanned_of_scan made
  have rejected : run.summary.answered false = _ := answered_ingest_host
  have applied : run.summary.answered true = _ := answered_ingest_host
  refine ⟨⟨node, started, fun entry inside => ?files⟩, ?rejected, ?applied, ?issues,
    fun entry => Violation.line?_eq_none_iff⟩
  case files =>
    obtain ⟨names, known, content, named, held, beyond⟩ := beyond_iff_of_scanned scanned inside
    exact ⟨names, known, content, named, held, beyond,
      fun short => beyond.trans (beyondIn_iff_of_short short)⟩
  case rejected => simpa [Summary.answered, found] using rejected
  case applied => simpa [Summary.answered, found] using applied
  case issues =>
    have issues : run.sink.issues = _ := issues_ingest_host
    rwa [scanned.issues, List.nil_append] at issues

/-- A folder with one file of two lines. -/
def twoLines : World where
  root := .folder [("a.go", .file [112, 10, 102, 10] .readable)]
  current := []
  programFolder := "/"
  temporaryFolder := "/"

/-- A report about that file, with one finding at a given line. -/
def reportAt (line : Int64) : FileReport :=
  ⟨"a.go", 2, 0, [⟨"CC", "too complex", line⟩]⟩

theorem scan_twoLines :
    scan twoLines "go" "/" ["go"] .relative = .ok ⟨"go", ["a.go"], [("a.go", 2)], [], []⟩ := by
  have starts : twoLines.StartsAt "/" [] twoLines.root := .here (by cbv) rfl nofun
  have named : twoLines.root.WellNamed :=
    Node.wellNamed_folder (by decide) (by simpa using ⟨by decide, Node.wellNamed_file⟩)
  rw [scan_eq starts named (by decide +kernel)]
  exact congrArg Except.ok (by decide +kernel)

/-- A finding one line beyond the end is rejected. -/
theorem ingest_two_lines :
    let start : RecordingHost := ⟨"go", ["a.go"], [("a.go", 2)], [], []⟩
    scan twoLines "go" "/" ["go"] .relative = .ok start
    ∧ (ingest host.toSink "go-go" start.registry [reportAt 3] start).summary.issuesRejected = 1 := by
  intro start
  have counted := (ingest_scanned twoLines "go" "/" ["go"] .relative start scan_twoLines "go-go"
    [reportAt 3]).2.1
  exact ⟨scan_twoLines, counted.trans (by decide)⟩

/-- A finding at the first line of more than 32 bits is not rejected, although
the file has two lines: it is recorded for the whole file. -/
theorem first_wide_line_recorded :
    let start : RecordingHost := ⟨"go", ["a.go"], [("a.go", 2)], [], []⟩
    let run := ingest host.toSink "go-go" start.registry [reportAt 4294967296] start
    scan twoLines "go" "/" ["go"] .relative = .ok start
    ∧ run.summary.issuesRejected = 0
    ∧ run.sink.issues = [⟨"a.go", ⟨"go-go", "CC"⟩, "too complex", none⟩] := by
  intro start run
  exact ⟨scan_twoLines, by decide, by decide⟩

end RecordingHost

end Findings
