import Findings.Proofs.Bundle.Lifetimes
import Findings.Proofs.Pass.Outcome

/-!
Contract: the order of what a pass does.

Owns:
- `PassTurn`, the turns of a pass, and `Pass.InOrder`, what is done on each turn
  and that the turns come one after another;
- `Stages.traced`, stages that keep what they are asked for, and the law that
  the events of a pass are just that;
- `PassesInOrder`, passes each of which starts from what the one before it left;
- the program of a bundle, which is there when it is run and whose copy is gone
  before anything is decoded.

Does not own: how a stage does what it is asked for.
-/

namespace Findings

variable {ω σ η : Type}

/-! ## Turns -/

inductive PassTurn where
  | extraction
  | launch
  | removal
  | decoding
  | ingestion
deriving DecidableEq, Repr

def PassEvent.turn : PassEvent η → PassTurn
  | extract _ => .extraction
  | run _ => .launch
  | release _ => .removal
  | decode _ => .decoding
  | call _ => .ingestion

/-- What was done on a turn, with the surroundings that it found. -/
def PassRun.on (run : PassRun ω σ η) (turn : PassTurn) : List (PassEvent η × ω) :=
  run.trace.filter (·.1.turn = turn)

/-! ## Stages that keep what they are asked for -/

/-- Stages that also keep what they are asked for, with the surroundings that
they find. -/
def Stages.traced (stages : Stages ω) : Stages (ω × List (PassEvent η × ω)) where
  extractorName := stages.extractorName
  extract osName seen :=
    let (extraction, left) := stages.extract osName seen.1
    (extraction, left, seen.2 ++ [(.extract osName, seen.1)])
  run invocation seen :=
    (stages.run invocation seen.1).map fun (captured, left) =>
      (captured, left, seen.2 ++ [(.run invocation, seen.1)])
  release binary seen :=
    (stages.release binary seen.1, seen.2 ++ [(.release binary, seen.1)])

/-! ## Order -/

/-- A pass takes its turns one after another.  The analyzer is looked for once; it
is run once if it was found, and then released once, however the run ended, if it
did; what it wrote is decoded once if the run succeeded, and the host is called for
the reports if there are any. -/
structure Pass.InOrder
    (pass : Pass)
    (stages : Stages ω)
    (host : Host σ η)
    (state : σ)
    (before : ω)
    (run : PassRun ω σ η) :
    Prop where
  turns : run.trace
    = run.on .extraction ++ run.on .launch ++ run.on .removal ++ run.on .decoding
      ++ run.on .ingestion
  extraction : run.on .extraction = [(.extract pass.osName, before)]
  launch : run.on .launch
    = match stages.extract pass.osName before with
      | (.ok binary, extracted) =>
        [(.run ⟨binary.path, ["-json", "-dir", pass.target], parentPath binary.path⟩, extracted)]
      | (.error _, _) => []
  removal : run.on .removal
    = match stages.extract pass.osName before with
      | (.ok binary, extracted) =>
        match stages.run (pass.invocation binary) extracted with
        | some (_, used) => [(.release binary, used)]
        | none => []
      | (.error _, _) => []
  decoding : run.on .decoding
    = match pass.written? stages before with
      | some (captured, released) => [(.decode captured.stdout, released)]
      | none => []
  ingestion : run.on .ingestion
    = match pass.written? stages before with
      | some (captured, released) =>
        match FileReport.decodeAll captured.stdout with
        | .ok reports =>
          (callsFor pass.repository (.ofFiles (host.sourceFiles state pass.language)) reports).map
            fun call => (.call call, released)
        | .error _ => []
      | none => []
  /-- Nothing but a program that never ends keeps a pass from ending. -/
  endless : run.outcome = none
    ↔ ∃ binary extracted, stages.extract pass.osName before = (.ok binary, extracted)
      ∧ stages.run (pass.invocation binary) extracted = none
  /-- The stages are asked for what the events say and for nothing else; what never ends
  leaves nothing behind that it was asked for. -/
  asked : (pass.execute stages.traced host state (before, [])).surroundings
    = (run.surroundings, run.on .extraction
      ++ match run.outcome with
        | some _ => run.on .launch ++ run.on .removal
        | none => [])

/-- Passes one after another, each of them in order and from where the one before
it ended.  Behind one that never ends there is none. -/
inductive PassesInOrder (host : Host σ η) :
    List (Pass × Stages ω) → σ → ω → List (Pass × PassRun ω σ η) → Prop where
  | none {state : σ} {before : ω} : PassesInOrder host [] state before []
  | pass {state : σ} {before : ω} {pass : Pass} {stages : Stages ω} {run : PassRun ω σ η}
      {attempts : List (Pass × Stages ω)} {runs : List (Pass × PassRun ω σ η)}
      (ordered : pass.InOrder stages host state before run)
      (ended : run.outcome ≠ none)
      (more : PassesInOrder host attempts run.host run.surroundings runs) :
      PassesInOrder host ((pass, stages) :: attempts) state before ((pass, run) :: runs)
  | endless {state : σ} {before : ω} {pass : Pass} {stages : Stages ω} {run : PassRun ω σ η}
      {attempts : List (Pass × Stages ω)}
      (ordered : pass.InOrder stages host state before run)
      (endless : run.outcome = none) :
      PassesInOrder host ((pass, stages) :: attempts) state before [(pass, run)]

namespace Pass

variable {pass : Pass} {stages : Stages ω} {host : Host σ η} {state : σ}
  {before extracted used left : ω} {binary : Binary} {turn : PassTurn}

/-- Calls belong to the last turn. -/
theorem filter_calls {calls : List (Call η)} :
    (calls.map fun call => (PassEvent.call call, left)).filter (·.1.turn = turn)
      = if turn = .ingestion then calls.map fun call => (PassEvent.call call, left) else [] := by
  rw [List.filter_map]
  by_cases last : turn = .ingestion
  · subst last
    rw [if_pos rfl, List.filter_eq_self.mpr]
    intro call _
    rfl
  · rw [if_neg last, List.filter_eq_nil_iff.mpr, List.map_nil]
    intro call _
    simp [PassEvent.turn, Ne.symm last]

theorem extract_traced
    {osName : String}
    {extraction : Except ExtractionFailure Binary}
    {seen : List (PassEvent η × ω)}
    (found : stages.extract osName before = (extraction, left)) :
    stages.traced.extract osName (before, seen)
      = (extraction, left, seen ++ [(.extract osName, before)]) := by
  simp only [Stages.traced, found]

/-- The stages are asked for the extraction, and if it succeeds for one run, and for
one release if that ends. -/
theorem left?_traced :
    pass.left? (stages.traced : Stages (ω × List (PassEvent η × ω))) (before, [])
      = match stages.extract pass.osName before with
        | (.error _, left) => some (left, [(.extract pass.osName, before)])
        | (.ok binary, extracted) =>
          (stages.run (pass.invocation binary) extracted).map fun (_, used) =>
            (stages.release binary used,
              [(.extract pass.osName, before), (.run (pass.invocation binary), extracted),
                (.release binary, used)]) := by
  cases found : stages.extract pass.osName before with
  | mk extraction left =>
    rw [left?, extract_traced found]
    cases extraction with
    | error failure => rfl
    | ok binary =>
      simp only [Stages.traced]
      cases stages.run (pass.invocation binary) left <;> rfl

theorem exists_endless_iff
    (found : stages.extract pass.osName before = (.ok binary, extracted)) :
    (∃ program left, stages.extract pass.osName before = (.ok program, left)
        ∧ stages.run (pass.invocation program) left = none)
      ↔ stages.run (pass.invocation binary) extracted = none := by
  constructor
  · rintro ⟨program, left, same, endless⟩
    rw [found] at same
    cases same
    exact endless
  · intro endless
    exact ⟨binary, extracted, found, endless⟩

/-! ## The ways through a pass -/

theorem inOrder_of_extract_error {failure : ExtractionFailure}
    (failed : stages.extract pass.osName before = (.error failure, left)) :
    pass.InOrder stages host state before (pass.execute stages host state before) := by
  have written : pass.written? stages before = none := by
    simp only [written?, failed]
  rw [execute_of_extract_error failed]
  exact {
    turns := rfl
    extraction := rfl
    launch := by rw [failed]; rfl
    removal := by rw [failed]; rfl
    decoding := by rw [written]; rfl
    ingestion := by rw [written]; rfl
    endless := by simp [failed]
    asked := surroundings_of_left? (by rw [left?_traced, failed]; rfl) }

theorem inOrder_of_run_endless
    (found : stages.extract pass.osName before = (.ok binary, extracted))
    (endless : stages.run (pass.invocation binary) extracted = none) :
    pass.InOrder stages host state before (pass.execute stages host state before) := by
  have written : pass.written? stages before = none := by
    simp only [written?, found, endless]
  rw [execute_of_run_endless found endless]
  exact {
    turns := rfl
    extraction := rfl
    launch := by rw [found]; rfl
    removal := by simp only [found, endless]; rfl
    decoding := by rw [written]; rfl
    ingestion := by rw [written]; rfl
    endless := by simp only [exists_endless_iff found, endless]
    asked := by
      rw [execute_of_run_endless (extract_traced found)]
      · rfl
      · simp only [Stages.traced, endless, Option.map_none] }

theorem inOrder_of_run_error {error : ProcessError}
    (found : stages.extract pass.osName before = (.ok binary, extracted))
    (failed : stages.run (pass.invocation binary) extracted = some (.error error, used)) :
    pass.InOrder stages host state before (pass.execute stages host state before) := by
  have written : pass.written? stages before = none := by
    simp only [written?, found, failed]
  rw [execute_of_run_error found failed]
  exact {
    turns := rfl
    extraction := rfl
    launch := by rw [found]; rfl
    removal := by simp only [found, failed]; rfl
    decoding := by rw [written]; rfl
    ingestion := by rw [written]; rfl
    endless := by simp [exists_endless_iff found, failed]
    asked := surroundings_of_left? (by simp only [left?_traced, found, failed]; rfl) }

theorem inOrder_of_run_ok {captured : Captured}
    (found : stages.extract pass.osName before = (.ok binary, extracted))
    (ran : stages.run (pass.invocation binary) extracted = some (.ok captured, used)) :
    pass.InOrder stages host state before (pass.execute stages host state before) := by
  have written : pass.written? stages before
      = some (captured, stages.release binary used) := by
    simp only [written?, found, ran]
  rw [execute_of_run_ok found ran]
  cases decoded : FileReport.decodeAll captured.stdout with
  | error error =>
      rw [digest_of_error decoded]
      exact {
        turns := rfl
        extraction := rfl
        launch := by rw [found]; rfl
        removal := by simp only [found, ran]; rfl
        decoding := by rw [written]; rfl
        ingestion := by simp only [written, decoded]; rfl
        endless := by simp [after, exists_endless_iff found, ran]
        asked := surroundings_of_left? (by simp only [left?_traced, found, ran]; rfl) }
  | ok reports =>
      let calls := callsFor pass.repository
        (.ofFiles (host.sourceFiles state pass.language)) reports
      let released := stages.release binary used
      let events : List (PassEvent η × ω) :=
        [(.extract pass.osName, before), (.run (pass.invocation binary), extracted),
          (.release binary, used), (.decode captured.stdout, released)]
      rw [digest_of_ok decoded]
      generalize ended : after _ _ = run
      have trace : run.trace = events ++ calls.map fun call => (.call call, released) := by
        rw [← ended]
        rfl
      have left : run.surroundings = released := by
        rw [← ended]
        rfl
      obtain ⟨result, outcome⟩ : ∃ result, run.outcome = some (.ok result) := by
        rw [← ended]
        exact ⟨_, rfl⟩
      have on : ∀ turn, run.on turn = events.filter (·.1.turn = turn)
          ++ if turn = .ingestion then calls.map fun call => (.call call, released) else [] := by
        intro turn
        rw [PassRun.on, trace, List.filter_append, filter_calls]
      exact {
        turns := by
          simp only [on, trace]
          rfl
        extraction := on .extraction
        launch := by rw [found]; exact on .launch
        removal := by simp only [found, ran]; exact on .removal
        decoding := by rw [written]; exact on .decoding
        ingestion := by simp only [written, decoded]; exact on .ingestion
        endless := by simp [outcome, exists_endless_iff found, ran]
        asked := by
          apply surroundings_of_left?
          simp only [left?_traced, found, ran, on, left, outcome]
          rfl }

/-- A pass takes its turns one after another, however it ends. -/
theorem execute_inOrder :
    pass.InOrder stages host state before (pass.execute stages host state before) := by
  cases pass.way stages before with
  | unfound failed => exact inOrder_of_extract_error failed
  | endless found endless => exact inOrder_of_run_endless found endless
  | failed found failed => exact inOrder_of_run_error found failed
  | wrote found ran => exact inOrder_of_run_ok found ran

/-- What is decoded and ingested finds what the program left behind. -/
theorem InOrder.written_of_mem
    {run : PassRun ω σ η}
    {event : PassEvent η × ω}
    (ordered : pass.InOrder stages host state before run)
    (member : event ∈ run.on .decoding ++ run.on .ingestion) :
    ∃ captured, pass.written? stages before = some (captured, event.2) := by
  rw [ordered.decoding, ordered.ingestion] at member
  cases written : pass.written? stages before with
  | none => simp [written] at member
  | some result =>
    obtain ⟨captured, released⟩ := result
    rw [written, List.mem_append] at member
    rcases member with decoding | ingestion
    · exact ⟨captured, by rw [List.mem_singleton.mp decoding]⟩
    · dsimp only at ingestion
      split at ingestion
      case h_1 =>
        obtain ⟨call, -, rfl⟩ := List.mem_map.mp ingestion
        exact ⟨captured, rfl⟩
      case h_2 => simp at ingestion

theorem released_of_written
    {captured : Captured}
    (found : stages.extract pass.osName before = (.ok binary, extracted))
    (written : pass.written? stages before = some (captured, left)) :
    ∃ outcome used, stages.run (pass.invocation binary) extracted = some (outcome, used)
      ∧ stages.release binary used = left := by
  simp only [written?, found] at written
  split at written
  case h_1 => cases written
  case h_2 => cases written
  case h_3 captured used ran =>
    cases written
    exact ⟨_, used, ran, rfl⟩

theorem executeAll_inOrder {attempts : List (Pass × Stages ω)} :
    PassesInOrder host attempts state before (executeAll host attempts state before) := by
  induction attempts generalizing state before with
  | nil => exact .none
  | cons attempt more inductionHypothesis =>
    obtain ⟨pass, stages⟩ := attempt
    rw [executeAll]
    cases outcome : (pass.execute stages host state before).outcome with
    | none => exact .endless execute_inOrder outcome
    | some result => exact .pass execute_inOrder (by simp [outcome]) inductionHypothesis

end Pass

/-! ## The program of a bundle -/

/-- A program is there: as a file of the bundle that its path leads to, or as a
copy in the folder for copies that can be run. -/
inductive Bundle.Present (bundle : Bundle) (world : World) : Binary → Prop where
  | found {place : List String} {content : List UInt8} {mode : Mode}
      (there : world.root.at? place = some (.file content mode)) :
      Bundle.Present bundle world ⟨locationPath place, none⟩
  | copied {location : List String} {entries : List (String × Node)} {name : String}
      {content : List UInt8}
      (opened : world.openFolder (world.absolute bundle.temporaryFolder) = .ok (location, entries))
      (there : entries.lookup name = some (.file content .program)) :
      Bundle.Present bundle world
        ⟨joinPath (world.absolute bundle.temporaryFolder) name, some (location ++ [name])⟩

/-- A program is there when it is run.  If it is a copy, it is gone before what it
wrote is decoded, when the host is called, and once the pass is over. -/
structure PassRun.Encloses (run : PassRun World σ η) (bundle : Bundle) (binary : Binary) :
    Prop where
  launched : ∀ event ∈ run.on .launch, bundle.Present event.2 binary
  removed : ∀ place ∈ binary.copy, ∀ event ∈ run.on .decoding ++ run.on .ingestion,
    event.2.root.at? place = none
  left : run.outcome ≠ none → ∀ place ∈ binary.copy, run.surroundings.root.at? place = none

section Bundles

variable {bundle : Bundle} {course : CopyCourse} {world extracted : World} {binary : Binary}
  {analyzer : Invocation → World → Option (Except ProcessError Captured × World)} {pass : Pass}
  {host : Host σ η} {state : σ} {osName entry : String} {place : List String}

theorem Bundle.present_of_extractFromFolder
    (made : extractFromFolder world bundle.path entry = .ok binary) :
    bundle.Present world binary := by
  simp only [extractFromFolder] at made
  split at made
  case isFalse => cases made
  case isTrue isFile =>
    unfold World.isFile at isFile
    split at isFile
    case h_2 => cases isFile
    case h_1 content mode found =>
      obtain ⟨place, led, there⟩ := World.find_eq_ok found
      simp only [World.canonical, led, Except.map] at made
      cases made
      exact .found there

theorem Bundle.present_of_extractAlong
    (made : bundle.extractAlong course osName world = (.ok binary, extracted)) :
    bundle.Present extracted binary := by
  obtain ⟨rfl, unowned, entries, isFolder⟩ | ⟨copied, -⟩ := Bundle.extractAlong_eq_ok made
  · unfold Bundle.extractAlong at made
    split at made
    · cases made
    · cases made
    · rename_i entry _ _
      simp only [isFolder] at made
      cases located : extractFromFolder extracted bundle.path entry with
      | error error => simp [located, Except.mapError] at made
      | ok program =>
        obtain rfl : program = binary := by simpa [located, Except.mapError] using made
        exact present_of_extractFromFolder located
  · obtain @⟨location, entries, name, content, opened, fresh⟩ := copied
    have there : (entries ++ [(name, Node.file content .program)]).lookup name
        = some (Node.file content .program) := by
      rw [List.lookup_append, Dictionary.lookup_eq_none_of_not_mem fresh, Option.none_or]
      simp
    exact .copied (World.openFolder_append opened) there

theorem Bundle.copy_ne_nil (present : bundle.Present world binary) (copy : place ∈ binary.copy) :
    place ≠ [] := by
  cases present with
  | found there => cases copy
  | copied opened there =>
    cases copy
    simp

theorem World.at?_release (copy : place ∈ binary.copy) (proper : place ≠ []) :
    (world.release binary).root.at? place = none := by
  rw [World.release, Option.mem_def.mp copy]
  exact Node.at?_erase_self proper

/-- The copy of a pass lasts while the program runs and no longer. -/
theorem Pass.execute_encloses
    (made : bundle.extractAlong course pass.osName world = (.ok binary, extracted)) :
    (pass.execute (bundle.stagesAlong course analyzer) host state world).Encloses bundle binary := by
  let stages := bundle.stagesAlong course analyzer
  have found : stages.extract pass.osName world = (.ok binary, extracted) := made
  have present := Bundle.present_of_extractAlong made
  have ordered : pass.InOrder stages host state world (pass.execute stages host state world) :=
    execute_inOrder
  have gone : ∀ place ∈ binary.copy, ∀ used : World, (used.release binary).root.at? place = none :=
    fun place copy used => World.at?_release copy (Bundle.copy_ne_nil present copy)
  constructor
  case launched =>
    rw [ordered.launch, found]
    simpa using present
  case removed =>
    intro place copy event member
    obtain ⟨captured, written⟩ := ordered.written_of_mem member
    obtain ⟨outcome, used, -, released⟩ := released_of_written found written
    rw [← released]
    exact gone place copy used
  case left =>
    intro ended place copy
    have leaves := left?_of_ended ended
    simp only [left?, found, stages] at leaves
    obtain ⟨⟨captured, used⟩, -, released⟩ := Option.map_eq_some_iff.mp leaves
    rw [← released]
    exact gone place copy used

/-- A system without an analyzer: the files are not looked at, and nothing but the
attempt happens. -/
theorem Pass.execute_unsupported
    (unsupported : bundle.analyzers.get? (platformKey pass.osName) = none) :
    pass.execute (bundle.stagesAlong course analyzer) host state world
      = ⟨some (.error (.extraction (.unsupported ⟨pass.osName, platformKey pass.osName⟩))), state,
          world, [(.extract pass.osName, world)]⟩ := by
  have unresolved : bundle.analyzers.resolve pass.osName
      = .error ⟨pass.osName, platformKey pass.osName⟩ := by
    simp only [Analyzers.resolve, unsupported]
  have failed : (bundle.stagesAlong course analyzer).extract pass.osName world
      = (.error (.error (.unsupported ⟨pass.osName, platformKey pass.osName⟩)), world) := by
    simp only [Bundle.stagesAlong, Bundle.extractAlong, unresolved]
  exact execute_of_extract_error failed

end Bundles

/-! ## Any passes -/

/-- Whatever the stages do and however they fail, all passes on a host take their
turns in order.  A program from a bundle is there when it is run, and its copy is
gone before anything is decoded; for a system without an analyzer a pass ends at
once, with the same error for all files. -/
theorem Pass.turns_in_order
    (host : Host σ η)
    (attempts : List (Pass × Stages ω))
    (state : σ)
    (before : ω) :
    PassesInOrder host attempts state before (executeAll host attempts state before)
    ∧ ∀ (bundle : Bundle) (course : CopyCourse)
        (analyzer : Invocation → World → Option (Except ProcessError Captured × World))
        (pass : Pass) (state : σ) (world : World),
        let run := pass.execute (bundle.stagesAlong course analyzer) host state world
        (∀ binary extracted,
          bundle.extractAlong course pass.osName world = (.ok binary, extracted) →
            run.Encloses bundle binary)
        ∧ (bundle.analyzers.get? (platformKey pass.osName) = none →
            run = ⟨some (.error (.extraction (.unsupported ⟨pass.osName, platformKey pass.osName⟩))),
              state, world, [(.extract pass.osName, world)]⟩) :=
  ⟨executeAll_inOrder, fun _ _ _ _ _ _ =>
    ⟨fun _ _ made => execute_encloses made, execute_unsupported⟩⟩

/-- A copy from an archive and a system without an analyzer, on the same files. -/
theorem Pass.turns_in_order_oneEntry :
    let files := archiveWorld oneEntryArchive
    let analyzer : Invocation → World → Option (Except ProcessError Captured × World) :=
      fun _ world => some (.ok ⟨secondReportBroken, "", some 0⟩, world)
    let stages := archiveBundle.stagesAlong .smooth analyzer
    let state := RecordingHost.ofLanguage "go"
    let linux : Pass := ⟨"Linux", "go", "/project"⟩
    let unknown : Pass := ⟨"Plan 9", "go", "/project"⟩
    PassesInOrder RecordingHost.host [(linux, stages), (unknown, stages)] state files
      (executeAll RecordingHost.host [(linux, stages), (unknown, stages)] state files)
    ∧ (linux.execute stages RecordingHost.host state files).Encloses archiveBundle
      ⟨"/tmp/a-000001", some ["tmp", "a-000001"]⟩
    ∧ unknown.execute stages RecordingHost.host state files
      = ⟨some (.error (.extraction (.unsupported ⟨"Plan 9", "Plan"⟩))), state, files,
          [(.extract "Plan 9", files)]⟩ := by
  intro files analyzer stages state linux unknown
  obtain ⟨ordered, ofBundle⟩ := turns_in_order RecordingHost.host
    [(linux, stages), (unknown, stages)] state files
  obtain ⟨encloses, -⟩ := ofBundle archiveBundle .smooth analyzer linux state files
  obtain ⟨-, unsupported⟩ := ofBundle archiveBundle .smooth analyzer unknown state files
  have key : platformKey "Plan 9" = "Plan" := by decide +kernel
  rw [show unknown.osName = "Plan 9" from rfl, key] at unsupported
  exact ⟨ordered, encloses _ _ extractAlong_archiveWorld, unsupported (by decide +kernel)⟩

end Findings
