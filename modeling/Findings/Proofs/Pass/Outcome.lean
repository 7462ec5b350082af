import Findings.Host.Recording
import Findings.Pass.Basic
import Findings.Proofs.Ingest.Calls

/-!
Contract: what a pass does to its host.

Owns:
- what the stages of a pass come to by themselves: what its program wrote, the
  reports in it, and the surroundings that are left;
- `Pass.Way`, how far the stages of a pass come, and the pass on each way;
- the two ways in which a pass meets its host: without reports, no call and the
  host as it was; or with the reports of its program, the calls for them and
  nothing else;
- `Pass.executeAll`, passes one after another on one host, as far as they end.

The stages are asked again for what they gave the pass, so no result of a pass
speaks for itself.

Does not own: what a call does to a host.
-/

namespace Findings

variable {ω σ η : Type}

/-! ## What the stages of a pass come to -/

namespace Pass

/-- What the program of a pass wrote, with the surroundings after its release; it
has to be extracted, and its run must end without errors. -/
def written? (pass : Pass) (stages : Stages ω) (before : ω) : Option (Captured × ω) :=
  match stages.extract pass.osName before with
  | (.error _, _) => none
  | (.ok binary, extracted) =>
    match stages.run (pass.invocation binary) extracted with
    | none | some (.error _, _) => none
    | some (.ok captured, used) => some (captured, stages.release binary used)

/-- The reports that the program of a pass wrote. -/
def reported? (pass : Pass) (stages : Stages ω) (before : ω) : Option (List FileReport) :=
  (pass.written? stages before).bind fun (captured, _) =>
    (FileReport.decodeAll captured.stdout).toOption

/-- The surroundings that a pass leaves, unless its program never ends. -/
def left? (pass : Pass) (stages : Stages ω) (before : ω) : Option ω :=
  match stages.extract pass.osName before with
  | (.error _, left) => some left
  | (.ok binary, extracted) =>
    (stages.run (pass.invocation binary) extracted).map fun (_, used) =>
      stages.release binary used

/-- Passes one after another, each with the reports that its program wrote.  There
is nothing behind a program that never ends. -/
def reportedAll : List (Pass × Stages ω) → ω → List (Pass × Option (List FileReport))
  | [], _ => []
  | (pass, stages) :: more, before =>
    (pass, pass.reported? stages before)
      :: match pass.left? stages before with
        | some left => reportedAll more left
        | none => []

end Pass

/-! ## Passes that are over -/

def PassEvent.call? : PassEvent η → Option (Call η)
  | .call made => some made
  | _ => none

namespace PassRun

def calls (run : PassRun ω σ η) : List (Call η) :=
  run.trace.filterMap fun event => event.1.call?

def succeeded (run : PassRun ω σ η) : Bool :=
  match run.outcome with
  | some (.ok _) => true
  | some (.error _) | none => false

end PassRun

/-! ## Programs that only write -/

/-- Stages in which a program is found at once and writes a text. -/
def Stages.writing (output : String) : Stages Unit where
  extractorName := "writing"
  extract _ _ := (.ok ⟨"/bundle/analyzer", none⟩, ())
  run _ _ := some (.ok ⟨output, "", some 0⟩, ())
  release _ _ := ()

/-- A good report, and one whose lines of code are a text. -/
def secondReportBroken : String :=
  "[\x7b\"FilePath\":\"a.go\",\"LinesOfCode\":10,\"LinesOfComments\":2,\"Violations\":"
    ++ "[\x7b\"Type\":\"CC\",\"Description\":\"too complex\",\"SrcLine\":5\x7d]\x7d,"
    ++ "\x7b\"FilePath\":\"b.go\",\"LinesOfCode\":\"many\"\x7d]"

namespace Pass

variable {pass : Pass} {stages : Stages ω} {host : Host σ η} {state : σ}
  {surroundings extracted used : ω} {binary : Binary} {captured : Captured}

/-! ## The ways through a pass -/

/-- How far the stages of a pass come. -/
inductive Way (pass : Pass) (stages : Stages ω) (before : ω) : Prop where
  | unfound {failure : ExtractionFailure} {left : ω}
      (failed : stages.extract pass.osName before = (.error failure, left))
  | endless {binary : Binary} {extracted : ω}
      (found : stages.extract pass.osName before = (.ok binary, extracted))
      (endless : stages.run (pass.invocation binary) extracted = none)
  | failed {binary : Binary} {extracted used : ω} {error : ProcessError}
      (found : stages.extract pass.osName before = (.ok binary, extracted))
      (failed : stages.run (pass.invocation binary) extracted = some (.error error, used))
  | wrote {binary : Binary} {extracted used : ω} {captured : Captured}
      (found : stages.extract pass.osName before = (.ok binary, extracted))
      (ran : stages.run (pass.invocation binary) extracted = some (.ok captured, used))

theorem way (pass : Pass) (stages : Stages ω) (before : ω) : pass.Way stages before := by
  cases found : stages.extract pass.osName before with
  | mk extraction extracted =>
    cases extraction with
    | error failure => exact .unfound found
    | ok binary =>
      cases ran : stages.run (pass.invocation binary) extracted with
      | none => exact .endless found ran
      | some result =>
        obtain ⟨outcome, used⟩ := result
        cases outcome with
        | error error => exact .failed found ran
        | ok captured => exact .wrote found ran

theorem execute_of_extract_error {failure : ExtractionFailure}
    (failed : stages.extract pass.osName surroundings = (.error failure, extracted)) :
    pass.execute stages host state surroundings
      = ⟨some (.error (failure.toPassError stages.extractorName)), state, extracted,
          [(.extract pass.osName, surroundings)]⟩ := by
  simp only [execute, failed]

theorem execute_of_run_endless
    (found : stages.extract pass.osName surroundings = (.ok binary, extracted))
    (endless : stages.run (pass.invocation binary) extracted = none) :
    pass.execute stages host state surroundings
      = ⟨none, state, extracted,
          [(.extract pass.osName, surroundings), (.run (pass.invocation binary), extracted)]⟩ := by
  simp only [execute, found, endless]

theorem execute_of_run_error {error : ProcessError}
    (found : stages.extract pass.osName surroundings = (.ok binary, extracted))
    (failed : stages.run (pass.invocation binary) extracted = some (.error error, used)) :
    pass.execute stages host state surroundings
      = ⟨some (.error (.process error)), state, stages.release binary used,
          [(.extract pass.osName, surroundings), (.run (pass.invocation binary), extracted),
            (.release binary, used)]⟩ := by
  simp only [execute, found, failed]
  rfl

theorem execute_of_run_ok
    (found : stages.extract pass.osName surroundings = (.ok binary, extracted))
    (ran : stages.run (pass.invocation binary) extracted = some (.ok captured, used)) :
    pass.execute stages host state surroundings
      = after
          [(.extract pass.osName, surroundings), (.run (pass.invocation binary), extracted),
            (.release binary, used)]
          (pass.digest host (.ofFiles (host.sourceFiles state pass.language)) state
            (stages.release binary used) captured.stdout) := by
  simp only [execute, found, ran]
  rfl

theorem digest_of_error {registry : FileRegistry η} {output : String} {error : ReportError}
    (refused : FileReport.decodeAll output = .error error) :
    pass.digest host registry state surroundings output
      = ⟨some (.error (.report error)), state, surroundings,
          [(.decode output, surroundings)]⟩ := by
  simp only [digest, refused]

/-- What is decoded is ingested; the calls are those for the reports. -/
theorem digest_of_ok {registry : FileRegistry η} {output : String} {reports : List FileReport}
    (decoded : FileReport.decodeAll output = .ok reports) :
    let ingestion := ingest host.toSink pass.repository registry reports state
    pass.digest host registry state surroundings output
      = ⟨some (.ok ⟨ingestion.summary, registry.size⟩), ingestion.sink, surroundings,
          (.decode output, surroundings)
            :: (callsFor pass.repository registry reports).map fun call =>
              (.call call, surroundings)⟩ := by
  simp only [digest, decoded, ingest_traced]

/-! ## What a pass does to its host -/

/-- A pass without reports, as it failed or its program never ends: no call was made,
and the host is as it was. -/
structure Fruitless
    (pass : Pass)
    (stages : Stages ω)
    (state : σ)
    (before : ω)
    (run : PassRun ω σ η) :
    Prop where
  reported? : pass.reported? stages before = none
  succeeded : run.succeeded = false
  calls : run.calls = []
  host : run.host = state

/-- A pass that took in the reports of its program: the calls are those for them, and
nothing else was done to the host. -/
structure Fruitful
    (pass : Pass)
    (stages : Stages ω)
    (host : Host σ η)
    (state : σ)
    (before : ω)
    (run : PassRun ω σ η)
    (reports : List FileReport) :
    Prop where
  reported? : pass.reported? stages before = some reports
  succeeded : run.succeeded = true
  calls : run.calls
    = callsFor pass.repository (.ofFiles (host.sourceFiles state pass.language)) reports
  host : run.host = host.replay state run.calls

private theorem filterMap_call? {calls : List (Call η)} :
    (calls.map fun call => (PassEvent.call call, surroundings)).filterMap
      (fun event => event.1.call?) = calls := by
  rw [List.filterMap_map]
  exact List.filterMap_some

/-- A pass does nothing to its host, or takes in the reports of its program. -/
theorem execute_cases
    (pass : Pass)
    (stages : Stages ω)
    (host : Host σ η)
    (state : σ)
    (surroundings : ω) :
    let run := pass.execute stages host state surroundings
    pass.Fruitless stages state surroundings run
    ∨ ∃ reports, pass.Fruitful stages host state surroundings run reports := by
  intro run
  cases pass.way stages surroundings with
  | unfound failed =>
      have nothing : pass.reported? stages surroundings = none := by
        simp [reported?, written?, failed]
      simp only [run, execute_of_extract_error failed]
      exact .inl ⟨nothing, rfl, rfl, rfl⟩
  | endless found endless =>
      have nothing : pass.reported? stages surroundings = none := by
        simp [reported?, written?, found, endless]
      simp only [run, execute_of_run_endless found endless]
      exact .inl ⟨nothing, rfl, rfl, rfl⟩
  | failed found failed =>
      have nothing : pass.reported? stages surroundings = none := by
        simp [reported?, written?, found, failed]
      simp only [run, execute_of_run_error found failed]
      exact .inl ⟨nothing, rfl, rfl, rfl⟩
  | @wrote binary extracted used captured found ran =>
      have decoding : pass.reported? stages surroundings
          = (FileReport.decodeAll captured.stdout).toOption := by
        simp [reported?, written?, found, ran]
      simp only [run, execute_of_run_ok found ran]
      cases decoded : FileReport.decodeAll captured.stdout with
      | error error =>
          rw [digest_of_error decoded]
          exact .inl ⟨by rw [decoding, decoded]; rfl, rfl, rfl, rfl⟩
      | ok reports =>
          rw [digest_of_ok decoded]
          refine .inr ⟨reports, by rw [decoding, decoded]; rfl, rfl, filterMap_call?, ?_⟩
          exact ingest_sink.trans (congrArg _ filterMap_call?.symm)

/-- A pass ends if its program does, and leaves what its stages left. -/
theorem map_outcome_execute :
    let run := pass.execute stages host state surroundings
    run.outcome.map (fun _ => run.surroundings) = pass.left? stages surroundings := by
  intro run
  cases pass.way stages surroundings with
  | unfound failed => simp [run, execute_of_extract_error failed, left?, failed]
  | endless found endless =>
      simp [run, execute_of_run_endless found endless, left?, found, endless]
  | failed found failed => simp [run, execute_of_run_error found failed, left?, found, failed]
  | @wrote binary extracted used captured found ran =>
      simp only [run, execute_of_run_ok found ran, left?, found, ran, after, digest]
      cases FileReport.decodeAll captured.stdout <;> rfl

theorem surroundings_of_left? {left : ω} (leaves : pass.left? stages surroundings = some left) :
    (pass.execute stages host state surroundings).surroundings = left := by
  rw [← @map_outcome_execute _ _ _ pass stages host state] at leaves
  obtain ⟨-, -, same⟩ := Option.map_eq_some_iff.mp leaves
  exact same

theorem left?_of_ended
    (ended : (pass.execute stages host state surroundings).outcome ≠ none) :
    pass.left? stages surroundings
      = some (pass.execute stages host state surroundings).surroundings := by
  obtain ⟨result, outcome⟩ := Option.ne_none_iff_exists'.mp ended
  rw [← @map_outcome_execute _ _ _ pass stages host state, outcome, Option.map_some]

/-- A pass ends if every program does. -/
theorem outcome_ne_none (ends : ∀ invocation before, stages.run invocation before ≠ none) :
    (pass.execute stages host state surroundings).outcome ≠ none := by
  intro endless
  have leaves := @map_outcome_execute _ _ _ pass stages host state surroundings
  simp only [endless, Option.map_none, left?] at leaves
  split at leaves
  · cases leaves
  · exact ends _ _ (Option.map_eq_none_iff.mp leaves.symm)

/-! ## Passes one after another -/

/-- The runs of passes on one host, each in the surroundings that the one before it
left.  No pass comes after one that never ends. -/
def executeAll (host : Host σ η) :
    List (Pass × Stages ω) → σ → ω → List (Pass × PassRun ω σ η)
  | [], _, _ => []
  | (pass, stages) :: more, state, surroundings =>
    let run := pass.execute stages host state surroundings
    (pass, run)
      :: match run.outcome with
        | some _ => executeAll host more run.host run.surroundings
        | none => []

/-- Behind a pass the others go on from what it left, in the runs and in what is
reported; behind one that never ends there is nothing in either. -/
theorem executeAll_cons_cases (more : List (Pass × Stages ω)) :
    let run := pass.execute stages host state surroundings
    let reports? := pass.reported? stages surroundings
    (executeAll host ((pass, stages) :: more) state surroundings = [(pass, run)]
      ∧ reportedAll ((pass, stages) :: more) surroundings = [(pass, reports?)])
    ∨ (executeAll host ((pass, stages) :: more) state surroundings
        = (pass, run) :: executeAll host more run.host run.surroundings
      ∧ reportedAll ((pass, stages) :: more) surroundings
        = (pass, reports?) :: reportedAll more run.surroundings) := by
  intro run reports?
  have leaves : run.outcome.map (fun _ => run.surroundings) = pass.left? stages surroundings :=
    map_outcome_execute
  have runs : executeAll host ((pass, stages) :: more) state surroundings
      = (pass, run) :: match run.outcome with
        | some _ => executeAll host more run.host run.surroundings
        | none => [] := rfl
  rw [runs, reportedAll, ← leaves]
  cases run.outcome with
  | none => exact .inl ⟨rfl, rfl⟩
  | some result => exact .inr ⟨rfl, rfl⟩

def hostAfter (state : σ) (runs : List (Pass × PassRun ω σ η)) : σ :=
  runs.foldl (fun _ entry => entry.2.host) state

/-- A pass that ends with any error has called nothing and left the host as it
was, so all passes after it run as if there had been none. -/
theorem host_untouched_of_error
    (pass : Pass)
    (stages : Stages ω)
    (host : Host σ η)
    (state : σ)
    (surroundings : ω)
    (error : PassError)
    (failed : (pass.execute stages host state surroundings).outcome = some (.error error)) :
    let run := pass.execute stages host state surroundings
    run.calls = []
    ∧ run.host = state
    ∧ ∀ (later : List (Pass × Stages ω)) (next : ω),
        executeAll host later run.host next = executeAll host later state next := by
  intro run
  have untouched : pass.Fruitless stages state surroundings run := by
    rcases execute_cases pass stages host state surroundings with ended | ⟨reports, ended⟩
    · exact ended
    · have succeeded := ended.succeeded
      rw [PassRun.succeeded, failed] at succeeded
      contradiction
  refine ⟨untouched.calls, untouched.host, ?_⟩
  intro later next
  rw [untouched.host]

/-- The report before the broken one reaches neither the measures nor the
issues. -/
theorem host_untouched_by_second_report_broken :
    let pass : Pass := ⟨"Linux", "go", "/project"⟩
    let before := ((RecordingHost.ofLanguage "go").track "a.go").saveMeasure "a.go" .linesOfCode 7
    let run := pass.execute (.writing secondReportBroken) RecordingHost.host before ()
    run.outcome
      = some (.error (.report (.malformed ⟨.mismatch (.kind (.text "many") "i64"), ⟨1, 166⟩⟩)))
    ∧ run.calls = []
    ∧ run.host = before := by
  intro pass before run
  have failed : run.outcome
      = some (.error (.report (.malformed ⟨.mismatch (.kind (.text "many") "i64"), ⟨1, 166⟩⟩))) := by
    decide +kernel
  have untouched := host_untouched_of_error pass (.writing secondReportBroken)
    RecordingHost.host before () _ failed
  exact ⟨failed, untouched.1, untouched.2.1⟩

end Pass

end Findings
