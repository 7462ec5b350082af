import Findings.Proofs.Host.Recording
import Findings.Proofs.Pass.Outcome

/-!
Contract: passes on a recording host.

Owns:
- what given reports add to a recording host, read off its files;
- `RecordingHost.credited`, the reports that count: of programs that were
  extracted, ended without errors and wrote reports, in a language that the host
  knows;
- the host after any passes: the files stay, the issues in these reports follow
  one another, and a file has the first value of the last pass with a report
  about it.

Inside a pass the first report about a file counts; between passes the last
pass does.  Both rules meet in the registry, which is made anew for every pass
but is the same for all of them, because no call changes the files.

Does not own: what the passes do to their surroundings.
-/

namespace Findings

/-! ## Registries of a recording host -/

/-- Each path of a registry is found under its own normalized form only. -/
def FileRegistry.SelfKeyed (registry : FileRegistry String) : Prop :=
  ∀ key path, registry.files.get? key = some path → normalizePath path = key

namespace RecordingHost

/-- The files of a host, found by any spelling of their paths. -/
def registry (state : RecordingHost) : FileRegistry String :=
  .ofFiles (state.files.map fun path => ⟨path, path⟩)

/-- Whether a host lists its files for a language. -/
def knows (state : RecordingHost) (language : String) : Bool :=
  Text.sameUpToAsciiCase language.toList state.language.toList

variable {state before after : RecordingHost} {repository file language : String}
  {earlier reports : List FileReport} {report : FileReport}

/-- What a registry finds is a path of the host, under its normalized form. -/
theorem of_registry_get? {key path : String}
    (found : state.registry.files.get? key = some path) :
    path ∈ state.files ∧ normalizePath path = key := by
  simp only [registry, FileRegistry.ofFiles, Dictionary.ofList, Dictionary.get?_insertAll,
    Dictionary.get?_empty, Option.or_none, List.map_map] at found
  obtain ⟨front, back, split, -⟩ := List.lookup_eq_some_iff.mp found
  have member : (key, path) ∈ state.files.map fun path => (normalizePath path, path) := by
    rw [← List.mem_reverse]
    exact split ▸ List.mem_append_right front List.mem_cons_self
  obtain ⟨listed, inside, same⟩ := List.mem_map.mp member
  simp only [Prod.mk.injEq] at same
  obtain ⟨rfl, rfl⟩ := same
  exact ⟨inside, rfl⟩

theorem selfKeyed_registry : state.registry.SelfKeyed :=
  fun _ _ found => (of_registry_get? found).2

private theorem callsAfter_empty :
    callsAfter repository (.ofFiles ([] : List (TrackedFile String))) earlier reports = [] := by
  induction reports generalizing earlier with
  | nil => rfl
  | cons report more inductionHypothesis =>
      rw [callsAfter, inductionHypothesis, List.append_nil]
      rfl

/-- For a language that a host does not know its registry has no file. -/
theorem callsFor_sourceFiles :
    callsFor repository (.ofFiles (state.sourceFiles language)) reports
      = if state.knows language then callsFor repository state.registry reports else [] := by
  unfold sourceFiles knows
  split
  · rfl
  · exact callsAfter_empty

/-! ## First report -/

/-- The lines of code in the first report about a file. -/
def firstCount? (state : RecordingHost) (reports : List FileReport) (file : String) :
    Option Int64 :=
  (reports.find? fun report => state.registry.get? report.path == some file).map
    FileReport.linesOfCode

private theorem matches_iff (selfKeyed : state.registry.SelfKeyed) :
    state.registry.get? report.path = some file
      ↔ report.file = normalizePath file
        ∧ state.registry.files.get? (normalizePath file) = some file := by
  constructor
  · intro found
    have same : normalizePath file = report.file := selfKeyed _ _ found
    exact ⟨same.symm, same ▸ found⟩
  · rintro ⟨same, found⟩
    rw [← same] at found
    exact found

private theorem filterMap_valueFor?_calls (selfKeyed : state.registry.SelfKeyed) :
    (report.calls repository state.registry earlier).filterMap
        (Call.valueFor? file .linesOfCode)
      = if state.registry.get? report.path = some file
          ∧ normalizePath file ∉ earlier.map FileReport.file then [report.linesOfCode]
        else [] := by
  have select : Call.valueFor? file .linesOfCode = fun call => call.measure?.bind fun saved =>
      if saved.1 = file ∧ saved.2.1 = Metric.linesOfCode then some saved.2.2 else none := rfl
  rw [select, ← List.filterMap_filterMap, filterMap_measure?_calls]
  cases found : state.registry.get? report.path with
  | none => simp
  | some handle =>
      by_cases same : handle = file
      · subst same
        rw [((matches_iff selfKeyed).mp found).1]
        by_cases known : normalizePath handle ∈ earlier.map FileReport.file
        · rw [if_pos known, if_neg fun both => both.2 known]
          rfl
        · rw [if_neg known, if_pos ⟨rfl, known⟩]
          simp
      · have apart : ¬ (some handle = some file
            ∧ normalizePath file ∉ earlier.map FileReport.file) :=
          fun both => same (Option.some.inj both.1)
        rw [if_neg apart]
        split
        · rfl
        · simp [same]

private theorem firstCount?_eq_none (selfKeyed : state.registry.SelfKeyed)
    (untracked : state.registry.files.get? (normalizePath file) ≠ some file) :
    state.firstCount? reports file = none := by
  rw [firstCount?, Option.map_eq_none_iff, List.find?_eq_none]
  intro report _ matching
  exact untracked ((matches_iff selfKeyed).mp (by simpa using matching)).2

/-- Inside a pass the first report about a file counts, and no other. -/
theorem filterMap_valueFor?_callsAfter (selfKeyed : state.registry.SelfKeyed) :
    (callsAfter repository state.registry earlier reports).filterMap
        (Call.valueFor? file .linesOfCode)
      = if normalizePath file ∈ earlier.map FileReport.file then []
        else (state.firstCount? reports file).toList := by
  induction reports generalizing earlier with
  | nil => simp [callsAfter, firstCount?]
  | cons report more inductionHypothesis =>
      rw [callsAfter, List.filterMap_append, inductionHypothesis,
        filterMap_valueFor?_calls selfKeyed, List.map_append, List.map_singleton]
      by_cases known : normalizePath file ∈ earlier.map FileReport.file
      · rw [if_pos known, if_neg fun both => both.2 known,
          if_pos (List.mem_append_left _ known), List.append_nil]
      · rw [if_neg known]
        by_cases matching : state.registry.get? report.path = some file
        · -- The report is the first one: what follows is for other files.
          have same : report.file = normalizePath file := ((matches_iff selfKeyed).mp matching).1
          rw [if_pos ⟨matching, known⟩, if_pos (by simp [same])]
          simp [firstCount?, matching]
        · have skipped : state.firstCount? (report :: more) file
              = state.firstCount? more file := by
            simp [firstCount?, matching]
          rw [if_neg fun both => matching both.1, List.nil_append, skipped]
          by_cases same : normalizePath file = report.file
          · -- Another path holds the key of the file, so nothing reports it.
            have untracked : state.registry.files.get? (normalizePath file) ≠ some file :=
              fun found => matching ((matches_iff selfKeyed).mpr ⟨same.symm, found⟩)
            rw [if_pos (by simp [same]), firstCount?_eq_none selfKeyed untracked]
            rfl
          · rw [if_neg]
            simpa [same] using known

/-! ## What passes add -/

def accepted (state : RecordingHost) (repository : String) (reports : List FileReport) :
    List RecordedIssue :=
  (reports.flatMap (FileReport.issues repository state.registry)).filterMap state.recorded?

/-- The reports that count for a host: of the passes with reports those in a language
that the host knows. -/
def credited (state : RecordingHost) (reported : List (Pass × Option (List FileReport))) :
    List (Pass × List FileReport) :=
  reported.filterMap fun (pass, reports?) =>
    if state.knows pass.language then reports?.map fun reports => (pass, reports) else none

def creditedCalls (state : RecordingHost) (entries : List (Pass × List FileReport)) :
    List (Call String) :=
  entries.flatMap fun (pass, reports) => callsFor pass.repository state.registry reports

variable {ω : Type} {stages : Stages ω} {pass : Pass} {surroundings : ω}
  {attempts : List (Pass × Stages ω)} {reported : List (Pass × Option (List FileReport))}
  {entries : List (Pass × List FileReport)}

theorem SameFiles.registry (same : SameFiles before after) :
    before.registry = after.registry := by
  simp only [RecordingHost.registry, same.files]

/-- Which reports count depends on the files alone. -/
theorem SameFiles.credited (same : SameFiles before after) :
    before.credited reported = after.credited reported := by
  have knows : before.knows = after.knows := by
    funext language
    rw [RecordingHost.knows, same.language]
    rfl
  unfold RecordingHost.credited
  rw [knows]

theorem creditedCalls_append {more : List (Pass × List FileReport)} :
    state.creditedCalls (entries ++ more)
      = state.creditedCalls entries ++ state.creditedCalls more :=
  List.flatMap_append

/-- The issues that the calls of passes leave are those of their reports, pass by pass.
-/
theorem issues_creditedCalls :
    ((state.creditedCalls entries).filterMap Call.issue?).filterMap state.recorded?
      = entries.flatMap fun (pass, reports) => state.accepted pass.repository reports := by
  simp only [creditedCalls, List.filterMap_flatMap, callsFor, filterMap_issue?_callsAfter,
    accepted]

/-- Each pass saves the first value that it has for a file. -/
theorem values_creditedCalls :
    (state.creditedCalls entries).filterMap (Call.valueFor? file .linesOfCode)
      = entries.filterMap fun (_, reports) => state.firstCount? reports file := by
  simp only [creditedCalls, List.filterMap_flatMap, callsFor,
    filterMap_valueFor?_callsAfter selfKeyed_registry, List.map_nil, List.not_mem_nil, if_false]
  exact (List.filterMap_eq_flatMap_toList _ _).symm

/-- A pass calls its host for the reports of its program alone, if the host knows its
language. -/
theorem host_execute :
    let reported := [(pass, pass.reported? stages surroundings)]
    (pass.execute stages host state surroundings).host
      = host.replay state (state.creditedCalls (state.credited reported)) := by
  intro reported
  rcases Pass.execute_cases pass stages host state surroundings with
    fruitless | ⟨reports, fruitful⟩
  · have skipped : state.credited reported = [] := by
      simp [credited, reported, fruitless.reported?]
    rw [skipped]
    exact fruitless.host
  · have calls : (pass.execute stages host state surroundings).calls
        = state.creditedCalls (state.credited reported) := by
      refine fruitful.calls.trans (callsFor_sourceFiles.trans ?_)
      by_cases known : state.knows pass.language
      · simp [credited, creditedCalls, reported, fruitful.reported?, known]
      · simp [credited, creditedCalls, reported, known]
    rw [← calls]
    exact fruitful.host

/-- Passes call their host for the reports of their programs alone. -/
theorem hostAfter_executeAll :
    Pass.hostAfter state (Pass.executeAll host attempts state surroundings)
      = host.replay state
        (state.creditedCalls (state.credited (Pass.reportedAll attempts surroundings))) := by
  induction attempts generalizing state surroundings with
  | nil => rfl
  | cons attempt attempts inductionHypothesis =>
      obtain ⟨pass, stages⟩ := attempt
      let run := pass.execute stages host state surroundings
      let reported := [(pass, pass.reported? stages surroundings)]
      have first : run.host
          = host.replay state (state.creditedCalls (state.credited reported)) := host_execute
      obtain ⟨runs, all⟩ | ⟨runs, all⟩ :=
        @Pass.executeAll_cons_cases _ _ _ pass stages host state surroundings attempts
      · rw [runs, all]
        exact first
      · let rest := Pass.reportedAll attempts run.surroundings
        have same : SameFiles run.host state := first ▸ sameFiles_replay
        have split : state.credited (reported ++ rest)
            = state.credited reported ++ state.credited rest := List.filterMap_append
        rw [runs, all]
        calc
          Pass.hostAfter run.host (Pass.executeAll host attempts run.host run.surroundings)
            = host.replay run.host (run.host.creditedCalls (run.host.credited rest)) :=
            inductionHypothesis
          _ = host.replay run.host (state.creditedCalls (state.credited rest)) := by
            rw [same.credited]
            simp only [creditedCalls, same.registry]
          _ = host.replay state (state.creditedCalls (state.credited (reported ++ rest))) := by
            rw [split, creditedCalls_append, Sink.replay_append, ← first]

/-- Exactly the passes whose programs wrote reports end well. -/
theorem map_succeeded_executeAll :
    (Pass.executeAll host attempts state surroundings).map
        (fun (pass, run) => (pass, run.succeeded))
      = (Pass.reportedAll attempts surroundings).map
        fun (pass, reports?) => (pass, reports?.isSome) := by
  induction attempts generalizing state surroundings with
  | nil => rfl
  | cons attempt attempts inductionHypothesis =>
      obtain ⟨pass, stages⟩ := attempt
      have first : (pass.execute stages host state surroundings).succeeded
          = (pass.reported? stages surroundings).isSome := by
        rcases Pass.execute_cases pass stages host state surroundings with
          fruitless | ⟨reports, fruitful⟩
        · rw [fruitless.reported?]
          exact fruitless.succeeded
        · rw [fruitful.reported?]
          exact fruitful.succeeded
      obtain ⟨runs, all⟩ | ⟨runs, all⟩ :=
        @Pass.executeAll_cons_cases _ _ _ pass stages host state surroundings attempts
      · simp [runs, all, first]
      · rw [runs, all, List.map_cons, List.map_cons, inductionHypothesis]
        simp [first]

/-- After any passes, of any languages and with any stages, a recording host has its
files and their numbers of lines.  The passes that end well are those whose programs
were extracted, ended without errors and wrote reports.  The issues of the host have
grown by those in these reports that reach, pass by pass and in order.  A file that is
in the reports of some pass has one measure, the value of the first report about it in
the last such pass; every other file has the measures it had.  A pass of a language that
the host does not know counts for nothing. -/
theorem recordingHost_after_passes
    (attempts : List (Pass × Stages ω))
    (start : RecordingHost)
    (surroundings : ω) :
    let runs := Pass.executeAll host attempts start surroundings
    let final := Pass.hostAfter start runs
    let reported := Pass.reportedAll attempts surroundings
    let credited := start.credited reported
    SameFiles final start
    ∧ runs.map (fun (pass, run) => (pass, run.succeeded))
        = reported.map (fun (pass, reports?) => (pass, reports?.isSome))
    ∧ final.issues
        = start.issues
          ++ credited.flatMap (fun (pass, reports) => start.accepted pass.repository reports)
    ∧ ∀ file, final.measuresOf file .linesOfCode
        = match (credited.filterMap fun (_, reports) => start.firstCount? reports file).getLast? with
          | some value => [⟨file, .linesOfCode, value⟩]
          | none => start.measuresOf file .linesOfCode := by
  intro runs final reported credited
  have replayed : final = host.replay start (start.creditedCalls credited) := hostAfter_executeAll
  refine ⟨?files, map_succeeded_executeAll, ?issues, ?measures⟩
  case files =>
    rw [replayed]
    exact sameFiles_replay
  case issues => rw [replayed, issues_replay, issues_creditedCalls]
  case measures =>
    intro file
    rw [replayed, measuresOf_replay, values_creditedCalls]
    split <;> rename_i last <;> rw [last] <;> rfl

end RecordingHost

end Findings
