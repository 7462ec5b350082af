import Findings.Host.Basic
import Findings.Report.Basic

/-!
Contract: reports become measures and issues of a host.

Owns:
- `Summary`, the counts of one run;
- `LogEvent`, what is told about it while it goes on;
- `ingest`, which goes through the reports in order: one for an untracked path
  is skipped; the first one for a file saves its lines of code; each violation
  is handed over as an issue, whatever was answered before.

Does not own: how a host answers, and how events are shown.
-/

namespace Findings

/-! ## What a run tells -/

structure Summary where
  filesReported : Nat
  filesMatched : Nat
  filesSkipped : Nat
  metricsApplied : Nat
  issuesApplied : Nat
  issuesRejected : Nat
deriving DecidableEq, Repr

/-- The counts before the first report. -/
def Summary.start (reports : Nat) : Summary :=
  ⟨reports, 0, 0, 0, 0, 0⟩

inductive Level where
  | debug
  | info
  | warn
  | error
deriving DecidableEq, Repr

def Level.name : Level → String
  | debug => "DEBUG"
  | info => "INFO"
  | warn => "WARN"
  | error => "ERROR"

/-- What is told about a run while it goes on. -/
inductive LogEvent where
  | untracked (path : String)
  /-- A file was reported before; its lines of code stay. -/
  | repeated (path file : String) (linesOfCode : Int64)
  | saved (issue : String)
  | declined (issue : String)
  | refused (path : String) (line : Int64) (reason : String)
  | finished (matched skipped metrics issues rejected : Nat)
deriving DecidableEq, Repr

inductive LogValue where
  | text (text : String)
  | number (number : Int)
deriving DecidableEq, Repr

namespace LogEvent

def level : LogEvent → Level
  | untracked _ | saved _ | declined _ => .debug
  | repeated .. => .warn
  | refused .. => .error
  | finished .. => .info

def message : LogEvent → String
  | untracked _ => "No tracked file for report, skipping"
  | repeated .. => "File reported more than once, keeping its first NCLOC"
  | saved _ => "Saved issue"
  | declined _ => "Host declined issue"
  | refused .. => "Can't add issue"
  | finished .. => "Ingested analyzer report"

/-- What an event tells beside its wording, each part under its name. -/
def fields : LogEvent → List (String × LogValue)
  | untracked path => [("path", .text path)]
  | repeated path file linesOfCode =>
    [("path", .text path), ("file", .text file), ("lines_of_code", .number linesOfCode.toInt)]
  | saved issue | declined issue => [("issue", .text issue)]
  | refused path line reason =>
    [("path", .text path), ("line", .number line.toInt), ("error", .text (refusalMessage reason))]
  | finished matched skipped metrics issues rejected =>
    [("matched", .number matched), ("skipped", .number skipped), ("metrics", .number metrics),
      ("issues", .number issues), ("rejected", .number rejected)]

end LogEvent

def Summary.closingEvent (summary : Summary) : LogEvent :=
  .finished summary.filesMatched summary.filesSkipped summary.metricsApplied summary.issuesApplied
    summary.issuesRejected

/-! ## Issues -/

/-- The issue that is handed over for a violation. -/
def Violation.toIssue (violation : Violation) (repository : String) : NewIssue where
  rule := ⟨repository, violation.ruleType⟩
  message := violation.description
  line := violation.line?

/-- A violation in one line, with the path and the line as reported. -/
def Violation.text (violation : Violation) (path : String) : String :=
  violation.ruleType ++ "|" ++ violation.description ++ "|" ++ path ++ "("
    ++ toString violation.sourceLine.toInt ++ ")"

/-! ## A run -/

structure Progress (σ : Type) where
  sink : σ
  summary : Summary
  log : List LogEvent
  /-- The files whose lines of code were saved. -/
  measured : List String

def Progress.submit {σ η : Type}
    (sink : Sink σ η)
    (repository path : String)
    (handle : η)
    (progress : Progress σ)
    (violation : Violation) :
    Progress σ :=
  let (answer, state) := sink.addIssue progress.sink handle (violation.toIssue repository)
  let summary := progress.summary
  match answer with
  | .accepted =>
    { progress with
      sink := state
      summary := { summary with issuesApplied := summary.issuesApplied + 1 }
      log := progress.log ++ [.saved (violation.text path)] }
  | .declined =>
    { progress with
      sink := state
      summary := { summary with issuesRejected := summary.issuesRejected + 1 }
      log := progress.log ++ [.declined (violation.text path)] }
  | .refused reason =>
    { progress with
      sink := state
      summary := { summary with issuesRejected := summary.issuesRejected + 1 }
      log := progress.log ++ [.refused path violation.sourceLine reason] }

/-- Saves the lines of code of a report, unless those of its file were saved
before. -/
def Progress.measure {σ η : Type}
    (sink : Sink σ η)
    (file : String)
    (handle : η)
    (progress : Progress σ)
    (report : FileReport) :
    Progress σ :=
  if file ∈ progress.measured then
    { progress with
      log := progress.log ++ [.repeated report.path file report.linesOfCode] }
  else
    let summary := progress.summary
    { progress with
      sink := sink.saveMeasure progress.sink handle .linesOfCode report.linesOfCode
      summary := { summary with metricsApplied := summary.metricsApplied + 1 }
      measured := file :: progress.measured }

def Progress.take {σ η : Type}
    (sink : Sink σ η)
    (repository : String)
    (registry : FileRegistry η)
    (progress : Progress σ)
    (report : FileReport) :
    Progress σ :=
  let summary := progress.summary
  match registry.lookup report.path with
  | none =>
    { progress with
      summary := { summary with filesSkipped := summary.filesSkipped + 1 }
      log := progress.log ++ [.untracked report.path] }
  | some (file, handle) =>
    let matched :=
      { progress with summary := { summary with filesMatched := summary.filesMatched + 1 } }
    report.violations.foldl (submit sink repository report.path handle)
      (measure sink file handle matched report)

structure Ingestion (σ : Type) where
  sink : σ
  summary : Summary
  log : List LogEvent

/-- Takes a list of reports in. -/
def ingest {σ η : Type}
    (sink : Sink σ η)
    (repository : String)
    (registry : FileRegistry η)
    (reports : List FileReport)
    (state : σ) :
    Ingestion σ :=
  let progress := reports.foldl (Progress.take sink repository registry)
    ⟨state, .start reports.length, [], []⟩
  ⟨progress.sink, progress.summary, progress.log ++ [progress.summary.closingEvent]⟩

end Findings
