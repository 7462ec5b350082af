import Mathlib
import Findings.CommandLine.Command
import Findings.Proofs.CommandLine.Account
import Findings.Proofs.Host.Readable
import Findings.Proofs.Pass.Outcome

/-!
Contract: what the program ends with, and what it writes.

Owns:
- `SettingsFail`, a settings file that counts and cannot be used;
- the stages that follow, each with what the ones before it came to;
  `StageFails`, where they end early, and `Waits`, where they do not end;
- the law for all arguments of a pass, on any system: 2 for the settings, 1 for a
  stage, 0 if there is neither, and no end at all only for an analyzer that has
  none; and a text that tells all of a pass or nothing.

Does not own: arguments that are not understood, and what a stage does.
-/

namespace Findings.CommandLine

variable {system : System} {world : World} {options : Options} {settings : Effective}
  {path : String} {arguments : List String}

/-! ## Settings files -/

/-- The file that settings are read from: the one that the arguments name, or else
the one in the folder, if it is a regular file. -/
inductive SettingsFile (world : World) (options : Options) : String → Prop
  | named {path : String} (given : options.config = some path) : SettingsFile world options path
  | found (unnamed : options.config = none)
      (regular : world.isFile (joinPath options.folder "goanalyzer.toml") = true) :
      SettingsFile world options (joinPath options.folder "goanalyzer.toml")

/-- A file can be read, and its text describes settings. -/
def HoldsSettings (world : World) (path : String) : Prop :=
  ∃ text settings, world.readText path = .ok text ∧ Settings.parse? text = some settings

/-- There is a settings file, and it cannot be used. -/
def SettingsFail (world : World) (options : Options) : Prop :=
  ∃ path, SettingsFile world options path ∧ ¬ HoldsSettings world path

theorem exists_load_iff :
    (∃ settings, Settings.load world path = .ok settings) ↔ HoldsSettings world path := by
  unfold Settings.load HoldsSettings
  cases world.readText path with
  | error fault => simp
  | ok text => cases parsed : Settings.parse? text <;> simp [Settings.ofText, parsed]

/-- Without a named file only a regular file in the folder counts. -/
theorem settingsFile_iff :
    SettingsFile world options path
      ↔ options.config = some path
        ∨ options.config = none ∧ world.isFile path = true
          ∧ path = joinPath options.folder "goanalyzer.toml" := by
  constructor
  · rintro (⟨given⟩ | ⟨unnamed, regular⟩)
    · exact .inl given
    · exact .inr ⟨unnamed, regular, rfl⟩
  · rintro (given | ⟨unnamed, regular, rfl⟩)
    · exact .named given
    · exact .found unnamed regular

/-- What the arguments set changes nothing about whether settings can be had. -/
theorem exists_ofSettings_iff
    {target : String}
    {overrides : Overrides}
    {read : Except SettingsError Settings} :
    (∃ effective, (do return Effective.ofSettings target (← read) overrides) = Except.ok effective)
      ↔ ∃ settings, read = .ok settings := by
  cases read with
  | error error => simp [bind, Except.bind]
  | ok settings => simp [bind, Except.bind, pure, Except.pure]

/-- A file that counts is loaded; without one there is nothing to load. -/
theorem exists_effective_iff :
    (∃ settings, effective system.target world options = .ok settings)
      ↔ ¬ SettingsFail world options := by
  cases given : options.config with
  | some path =>
      simp only [effective, given, exists_ofSettings_iff, exists_load_iff, SettingsFail,
        settingsFile_iff]
      simp
  | none =>
      simp only [effective, given, exists_ofSettings_iff, Settings.discover, SettingsFail,
        settingsFile_iff]
      by_cases regular : world.isFile (joinPath options.folder "goanalyzer.toml") = true
      · simp [Settings.fileName, regular, exists_load_iff]
      · simp [Settings.fileName, regular]

/-! ## Stages -/

section Stages

variable (system : System) (world : World) (options : Options) (settings : Effective)

structure Resolved where
  folder : String
  resolved : world.canonical options.folder = .ok folder

structure Scanned extends Resolved world options where
  host : RecordingHost
  scanned : RecordingHost.scan world settings.language folder settings.fileSuffixes
    (styleOf options) = .ok host

structure Located extends Scanned world options settings where
  bundle : Bundle
  located : bundleOf world settings = .ok bundle

structure Extracted extends Located world options settings where
  binary : Binary
  beside : World
  extracted : bundle.extract settings.osName world = .ok (binary, beside)

def Extracted.invocation {world : World} {options : Options} {settings : Effective}
    (found : Extracted world options settings) : Invocation :=
  .analyze found.binary.path found.binary.workingFolder found.folder

structure Analyzed extends Extracted world options settings where
  captured : Captured
  after : World
  analyzed : runAnalyzer system.launch (limitOf settings) toExtracted.invocation beside
    = some (.ok captured, after)

structure Decoded extends Analyzed system world options settings where
  reports : List FileReport
  decoded : FileReport.decodeAll captured.stdout = .ok reports

/-- A stage that is reached fails. -/
inductive StageFails : Prop
  | resolve (fault : SystemFault) (failed : world.canonical options.folder = .error fault)
  | scan (before : Resolved world options) (fault : ScanFault)
      (failed : RecordingHost.scan world settings.language before.folder settings.fileSuffixes
        (styleOf options) = .error fault)
  /-- No bundle is set, and the program does not know its own folder. -/
  | locate (before : Scanned world options settings)
      (unset : settings.bundle = none) (unknown : world.programFolder = none)
  | extract (before : Located world options settings) (error : ExtractionError)
      (failed : before.bundle.extract settings.osName world = .error error)
  | analyze (before : Extracted world options settings) (error : ProcessError) (after : World)
      (failed : runAnalyzer system.launch (limitOf settings) before.invocation before.beside
        = some (.error error, after))
  | decode (before : Analyzed system world options settings) (error : ReportError)
      (failed : FileReport.decodeAll before.captured.stdout = .error error)

/-- The analyzer is reached, and it never ends although no time is set for it. -/
structure Waits extends Extracted world options settings where
  unlimited : settings.timeoutSeconds = none
  timeline : Timeline
  after : World
  launched : system.launch none toExtracted.invocation beside = .ok (timeline, after)
  endless : timeline.completed = none

end Stages

/-- The settings can be used, but a stage fails. -/
def PassFails (system : System) (world : World) (options : Options) : Prop :=
  ∃ settings, effective system.target world options = .ok settings
    ∧ StageFails system world options settings

/-- The settings can be used, but the analyzer never ends. -/
def PassWaits (system : System) (world : World) (options : Options) : Prop :=
  ∃ settings, effective system.target world options = .ok settings
    ∧ Nonempty (Waits system world options settings)

/-- Only a program that does not know its own folder lacks a bundle, and only if none is
set. -/
theorem bundleOf_eq_error_iff {error : ExtractionError} :
    bundleOf world settings = .error error
      ↔ settings.bundle = none ∧ world.programFolder = none ∧ error = .io unknownProgram := by
  unfold bundleOf bundlePath
  cases settings.bundle with
  | some path => simp [Except.map]
  | none => cases world.programFolder <;> simp [Except.map, eq_comm]

/-- Only a program that is started, never ends and has no limit is waited for. -/
theorem runAnalyzer_eq_none_iff
    {launcher : Launcher World}
    {limit : Option Nat}
    {invocation : Invocation} :
    runAnalyzer launcher limit invocation world = none
      ↔ limit = none ∧ ∃ timeline after, launcher none invocation world = .ok (timeline, after)
        ∧ timeline.completed = none := by
  simp only [runAnalyzer, capture, Option.map_eq_none_iff]
  constructor
  · intro waits
    split at waits
    case h_1 => cases waits
    case h_2 timeline after launched =>
      rw [Option.map_eq_none_iff] at waits
      unfold Timeline.capture at waits
      split at waits
      case h_4 endless => exact ⟨rfl, timeline, after, launched, endless⟩
      all_goals cases waits
  · rintro ⟨rfl, timeline, after, launched, endless⟩
    rw [launched]
    simp [Timeline.capture, endless]

theorem limitOf_eq_none_iff : limitOf settings = none ↔ settings.timeoutSeconds = none :=
  Option.map_eq_none_iff

/-- Either a stage fails, or the last one is over, or the analyzer is waited for. -/
theorem stageFails_or_decoded :
    StageFails system world options settings
      ∨ Nonempty (Decoded system world options settings)
      ∨ Nonempty (Waits system world options settings) := by
  cases resolved : world.canonical options.folder with
  | error fault => exact .inl (.resolve fault resolved)
  | ok folder =>
  let first : Resolved world options := ⟨folder, resolved⟩
  cases scanned : RecordingHost.scan world settings.language folder settings.fileSuffixes
      (styleOf options) with
  | error fault => exact .inl (.scan first fault scanned)
  | ok host =>
  let second : Scanned world options settings := { first with host, scanned }
  cases located : bundleOf world settings with
  | error error =>
      obtain ⟨unset, unknown, -⟩ := bundleOf_eq_error_iff.mp located
      exact .inl (.locate second unset unknown)
  | ok bundle =>
  let third : Located world options settings := { second with bundle, located }
  cases extracted : bundle.extract settings.osName world with
  | error error => exact .inl (.extract third error extracted)
  | ok found =>
  obtain ⟨binary, beside⟩ := found
  let fourth : Extracted world options settings := { third with binary, beside, extracted }
  cases ran : runAnalyzer system.launch (limitOf settings) fourth.invocation beside with
  | none =>
      obtain ⟨unlimited, timeline, after, launched, endless⟩ := runAnalyzer_eq_none_iff.mp ran
      have unlimited := limitOf_eq_none_iff.mp unlimited
      exact .inr (.inr ⟨{ fourth with unlimited, timeline, after, launched, endless }⟩)
  | some result =>
  obtain ⟨outcome, after⟩ := result
  cases outcome with
  | error error => exact .inl (.analyze fourth error after ran)
  | ok captured =>
  let fifth : Analyzed system world options settings :=
    { fourth with captured, after, analyzed := ran }
  cases decoded : FileReport.decodeAll captured.stdout with
  | error error => exact .inl (.decode fifth error decoded)
  | ok reports => exact .inr (.inl ⟨{ fifth with reports, decoded }⟩)

/-! ## Passes -/

theorem Located.runWith_eq (located : Located world options settings) :
    let run := (passOf settings located.folder).execute
      (located.bundle.stages system.launch (limitOf settings)) RecordingHost.host located.host world
    runWith system.launch world options settings
      = ⟨run.outcome.map fun
          | .error error => .error (.pass error)
          | .ok result => .ok (output options.format result.summary run.host),
        run.surroundings, .scan located.folder :: run.trace.map fun event => .pass event.1⟩ := by
  intro run
  simp only [runWith, located.resolved, located.scanned, located.located]
  rfl

theorem Extracted.extractStage_eq (extracted : Extracted world options settings) :
    (extracted.bundle.stages system.launch (limitOf settings)).extract
        (passOf settings extracted.folder).osName world
      = (.ok extracted.binary, extracted.beside) := by
  simp only [Bundle.stages, Bundle.extractStage, passOf, extracted.extracted]

/-- Wherever a stage fails, the pass does. -/
theorem StageFails.exists_error (failed : StageFails system world options settings) :
    ∃ error, (runWith system.launch world options settings).result = some (.error error)
      ∧ error.exitCode = 1 := by
  cases failed with
  | resolve fault failed => exact ⟨.folder fault, by simp only [runWith, failed], rfl⟩
  | scan before fault failed =>
      exact ⟨.scan fault, by simp only [runWith, before.resolved, failed], rfl⟩
  | locate before unset unknown =>
      have failed := bundleOf_eq_error_iff.mpr ⟨unset, unknown, rfl⟩
      exact ⟨.bundle (.io unknownProgram),
        by simp only [runWith, before.resolved, before.scanned, failed], rfl⟩
  | extract before error failed =>
      have stage : (before.bundle.stages system.launch (limitOf settings)).extract
          (passOf settings before.folder).osName world = (.error (.error error), world) := by
        simp only [Bundle.stages, Bundle.extractStage, passOf, failed]
      rw [before.runWith_eq, Pass.execute_of_extract_error stage]
      exact ⟨_, rfl, rfl⟩
  | analyze before error after failed =>
      rw [before.toLocated.runWith_eq, Pass.execute_of_run_error before.extractStage_eq failed]
      exact ⟨_, rfl, rfl⟩
  | decode before error failed =>
      rw [before.toLocated.runWith_eq,
        Pass.execute_of_run_ok before.toExtracted.extractStage_eq before.analyzed,
        Pass.digest_of_error failed]
      exact ⟨_, rfl, rfl⟩

/-- A pass has no result while its analyzer is waited for. -/
theorem Waits.result_eq_none (waits : Waits system world options settings) :
    (runWith system.launch world options settings).result = none := by
  have endless : runAnalyzer system.launch (limitOf settings) waits.invocation waits.beside
      = none :=
    runAnalyzer_eq_none_iff.mpr ⟨limitOf_eq_none_iff.mpr waits.unlimited, waits.timeline,
      waits.after, waits.launched, waits.endless⟩
  rw [waits.toLocated.runWith_eq,
    Pass.execute_of_run_endless waits.toExtracted.extractStage_eq endless]
  rfl

namespace Decoded

def ingestion (done : Decoded system world options settings) : Ingestion RecordingHost :=
  ingest RecordingHost.host.toSink (repositoryKey settings.language)
    (.ofFiles (done.host.sourceFiles settings.language)) done.reports done.host

def account (done : Decoded system world options settings) : Account :=
  ⟨done.ingestion.summary, done.ingestion.sink.measures, done.ingestion.sink.issues⟩

/-- The same stages, for another form of what is written. -/
def withFormat (done : Decoded system world options settings) (format : Format) :
    Decoded system world { options with format } settings where
  folder := done.folder
  resolved := done.resolved
  host := done.host
  scanned := done.scanned
  bundle := done.bundle
  located := done.located
  binary := done.binary
  beside := done.beside
  extracted := done.extracted
  captured := done.captured
  after := done.after
  analyzed := done.analyzed
  reports := done.reports
  decoded := done.decoded

theorem runWith_eq (done : Decoded system world options settings) :
    (runWith system.launch world options settings).result
        = some (.ok (output options.format done.ingestion.summary done.ingestion.sink))
      ∧ ∃ more, (runWith system.launch world options settings).events
        = .scan done.folder :: .pass (.extract settings.osName)
          :: .pass (.run (.analyze done.binary.path done.binary.workingFolder done.folder))
          :: more := by
  rw [done.toLocated.runWith_eq,
    Pass.execute_of_run_ok done.toExtracted.extractStage_eq done.analyzed,
    Pass.digest_of_ok done.decoded]
  exact ⟨rfl, _, rfl⟩

end Decoded

/-! ## Outcomes -/

/-- A line for each measure, then one for each issue, then one with the counts. -/
def Account.text (account : Account) : String :=
  String.join (account.measures.map fun measure =>
      measure.file ++ " " ++ (match measure.metric with | .linesOfCode => "NCLOC")
        ++ " = " ++ toString measure.value.toInt ++ "\n")
    ++ String.join (account.issues.map fun issue =>
      issue.rule.rule ++ "|" ++ issue.message ++ "|" ++ issue.file
        ++ "(" ++ toString ((issue.line.map UInt32.toNat).getD 0) ++ ")" ++ "\n")
    ++ (toString account.summary.filesReported ++ " files reported, "
      ++ toString account.summary.filesMatched ++ " matched, "
      ++ toString account.summary.issuesApplied ++ " issues saved, "
      ++ toString account.summary.issuesRejected ++ " rejected" ++ "\n")

/-- In text the account of a pass is written out, line by line. -/
theorem output_text (summary : Summary) (host : RecordingHost) :
    output .text summary host = Account.text ⟨summary, host.measures, host.issues⟩ := by
  simp only [output, outputLines, unlines, Account.text, List.map_append, List.map_map,
    List.map_singleton, String.join_append]
  rfl

/-- A document is written from which an account is read. -/
def TellsInJson (account : Account) (outcome : Outcome) : Prop :=
  outcome.exitCode = 0 ∧ ∃ document : Json.Document,
    outcome.stdout = String.ofList (document.chars ++ ['\n'])
      ∧ Account.read? document.tree = some account

/-- In JSON the account of a pass is written so that it can be read back. -/
theorem tellsInJson_output (summary : Summary) (host : RecordingHost) :
    TellsInJson ⟨summary, host.measures, host.issues⟩
      (.of (.ok (output .json summary host))) := by
  obtain ⟨document, text, same⟩ := Json.Value.exists_indented 0 (outputJson summary host)
  refine ⟨rfl, document, ?_, ?_⟩
  · simp [Outcome.of, output, unlines, Json.Value.indentedText, text, String.ofList_append]
  · rw [same, Account.read?_outputJson]

theorem runPass_of_effective (ready : effective system.target world options = .ok settings) :
    runPass system world options = runWith system.launch world options settings := by
  rw [runPass, ready]

theorem run_of_accepted (accepted : Request.ofArguments arguments = .ok (.pass options)) :
    run system arguments world
      = ((runPass system world options).result.map .of, (runPass system world options).world) := by
  simp only [run, accepted]

/-- The four ends of a pass, of which the last is none. -/
inductive Ends (system : System) (world : World) (options : Options) : Prop
  | settings (error : SettingsError)
      (failed : SettingsFail world options)
      (ends : runPass system world options = ⟨some (.error (.settings error)), world, []⟩)
  | stage (settings : Effective) (error : CommandError)
      (ready : effective system.target world options = .ok settings)
      (failed : StageFails system world options settings)
      (ends : (runPass system world options).result = some (.error error))
      (code : error.exitCode = 1)
  | decoded (settings : Effective)
      (ready : effective system.target world options = .ok settings)
      (done : Decoded system world options settings)
      (ends : (runPass system world options).result
        = some (.ok (output options.format done.ingestion.summary done.ingestion.sink)))
  | waits (settings : Effective)
      (ready : effective system.target world options = .ok settings)
      (waits : Waits system world options settings)
      (ends : (runPass system world options).result = none)

/-- A pass comes to one of its ends. -/
theorem ends (system : System) (world : World) (options : Options) :
    Ends system world options := by
  cases ready : effective system.target world options with
  | error error =>
      have failed : SettingsFail world options := by
        by_contra usable
        obtain ⟨settings, loaded⟩ := exists_effective_iff.mpr usable
        rw [ready] at loaded
        contradiction
      exact .settings error failed (by rw [runPass, ready])
  | ok settings =>
      have same := runPass_of_effective ready
      rcases @stageFails_or_decoded system world options settings with
        failed | ⟨⟨done⟩⟩ | ⟨⟨waits⟩⟩
      · obtain ⟨error, result, code⟩ := failed.exists_error
        exact .stage settings error ready failed (same ▸ result) code
      · exact .decoded settings ready done (same ▸ done.runWith_eq.1)
      · exact .waits settings ready waits (same ▸ waits.result_eq_none)

/-- Whichever stage fails, the result is the same error. -/
theorem PassFails.exists_error (failed : PassFails system world options) :
    ∃ error, (runPass system world options).result = some (.error error)
      ∧ error.exitCode = 1 := by
  obtain ⟨settings, ready, failed⟩ := failed
  rw [runPass_of_effective ready]
  exact failed.exists_error

theorem PassWaits.result_eq_none (waits : PassWaits system world options) :
    (runPass system world options).result = none := by
  obtain ⟨settings, ready, ⟨waits⟩⟩ := waits
  rw [runPass_of_effective ready]
  exact waits.result_eq_none

theorem not_passFails
    (noError : ∀ error, (runPass system world options).result ≠ some (.error error)) :
    ¬ PassFails system world options := by
  intro failed
  obtain ⟨error, failing, -⟩ := failed.exists_error
  exact noError error failing

theorem not_passWaits (concludes : (runPass system world options).result ≠ none) :
    ¬ PassWaits system world options :=
  fun waits => concludes waits.result_eq_none

/-- A pass that came to its end is told of as a whole. -/
structure Decoded.ToldBy (done : Decoded system world options settings) (outcome : Outcome)
    (events : List CommandEvent) : Prop where
  stages : ∃ more, events = .scan done.folder :: .pass (.extract settings.osName)
    :: .pass (.run (.analyze done.binary.path done.binary.workingFolder done.folder)) :: more
  text : options.format = .text → outcome.stdout = done.account.text
  json : ∀ other, Request.ofArguments other = .ok (.pass { options with format := .json }) →
    ∃ told, (run system other world).1 = some told ∧ TellsInJson done.account told

/-- Both forms tell of the same stages. -/
theorem Decoded.toldBy (done : Decoded system world options settings)
    (ready : effective system.target world options = .ok settings) :
    done.ToldBy
      (.of (.ok (output options.format done.ingestion.summary done.ingestion.sink)))
      (runPass system world options).events := by
  obtain ⟨result, events⟩ := done.runWith_eq
  rw [runPass_of_effective ready]
  refine ⟨events, ?text, ?json⟩
  case text =>
    intro asText
    rw [asText, output_text]
    rfl
  case json =>
    intro other alike
    have same : effective system.target world { options with format := .json } = .ok settings :=
      ready
    rw [run_of_accepted alike, runPass_of_effective same, (done.withFormat .json).runWith_eq.1]
    exact ⟨_, rfl, tellsInJson_output _ _⟩

/-- What the program comes to, for arguments that ask for a pass, on any system.
- It ends with 2 exactly if the settings file that counts cannot be read or describes
  no settings; then nothing is listed, extracted or run, and no file is changed.
- Otherwise it ends with 1 exactly if a stage fails.  It does not end exactly if it
  waits for an analyzer that never ends and has no limit, and else it ends with 0.
- Unless it ends with 0 it writes nothing to its output.
- The text is that of all measures and issues which the host was left with, in order,
  and of the counts; in JSON exactly the same is told of the same files. -/
theorem run_concludes (accepted : Request.ofArguments arguments = .ok (.pass options)) :
    let ended := (run system arguments world).1
    let pass := runPass system world options
    let code := ended.map Outcome.exitCode
    run system arguments world = (pass.result.map .of, pass.world)
      ∧ (code = some 2 ↔ SettingsFail world options)
      ∧ (SettingsFail world options → pass.events = [] ∧ pass.world = world)
      ∧ (code = some 1 ↔ ¬ SettingsFail world options ∧ PassFails system world options)
      ∧ (code = none ↔ ¬ SettingsFail world options ∧ PassWaits system world options)
      ∧ (code = some 0 ↔ ¬ SettingsFail world options ∧ ¬ PassFails system world options
          ∧ ¬ PassWaits system world options)
      ∧ ∀ outcome, ended = some outcome →
        (outcome.exitCode ≠ 0 → outcome.stdout = "")
        ∧ (outcome.exitCode = 0 → ∃ settings, effective system.target world options = .ok settings
            ∧ ∃ done : Decoded system world options settings,
              done.ToldBy outcome pass.events) := by
  intro ended pass code
  have told : ended = pass.result.map .of := congrArg Prod.fst (run_of_accepted accepted)
  refine ⟨run_of_accepted accepted, ?_⟩
  cases ends system world options with
  | settings error failed ends =>
      have two : ended = some ⟨"", unlines [(CommandError.settings error).message], 2⟩ := by
        rw [told, show pass = _ from ends]
        rfl
      have nothing : pass.events = [] ∧ pass.world = world := by
        rw [show pass = _ from ends]
        exact ⟨rfl, rfl⟩
      simp [code, two, failed, nothing]
  | stage settings error ready failed ends exit =>
      have one : ended = some ⟨"", unlines [error.message], 1⟩ := by
        rw [told, show pass.result = _ from ends, Option.map_some, Outcome.of, exit]
      have usable : ¬ SettingsFail world options := exists_effective_iff.mp ⟨settings, ready⟩
      have fails : PassFails system world options := ⟨settings, ready, failed⟩
      have goesOn : ¬ PassWaits system world options := not_passWaits (by simp [ends])
      simp [code, one, usable, fails, goesOn]
  | decoded settings ready done ends =>
      have zero : ended = some (.of (.ok (output options.format done.ingestion.summary
          done.ingestion.sink))) := by
        rw [told, show pass.result = _ from ends, Option.map_some]
      have usable : ¬ SettingsFail world options := exists_effective_iff.mp ⟨settings, ready⟩
      have succeeds : ¬ PassFails system world options := not_passFails (by simp [ends])
      have goesOn : ¬ PassWaits system world options := not_passWaits (by simp [ends])
      have whole := done.toldBy ready
      simp only [code, zero, usable, succeeds, goesOn, Option.map_some, Outcome.of]
      refine ⟨by simp, by simp, by simp, by simp, by simp, fun outcome same => ⟨?silent, ?_⟩⟩
      case silent =>
        intro failed
        obtain rfl := Option.some.inj same
        exact absurd rfl failed
      obtain rfl := Option.some.inj same
      exact fun _ => ⟨settings, ready, done, whole⟩
  | waits settings ready waits ends =>
      have nothing : ended = none := by rw [told, show pass.result = _ from ends, Option.map_none]
      have usable : ¬ SettingsFail world options := exists_effective_iff.mp ⟨settings, ready⟩
      have stays : PassWaits system world options := ⟨settings, ready, ⟨waits⟩⟩
      have succeeds : ¬ PassFails system world options := not_passFails (by simp [ends])
      simp [code, nothing, usable, stays, succeeds]

/-! ## An empty report -/

/-- A system on which every program writes an empty list and nothing else. -/
def emptyReportSystem : System where
  target := "linux"
  launch _ _ world := .ok (⟨[⟨.stdout, [91, 93]⟩], some 0, some 0⟩, world)

/-- A folder with a file of source code, settings that name an analyzer, and the
analyzer. -/
def emptyReportWorld : World where
  root := .folder [
    ("p", .folder [("a.go", .file [] .readable)]),
    ("c", .file (Text.utf8 "analyzers.a=\"x\"".toList) .readable),
    ("x", .file [] .program)]
  current := []
  programFolder := none
  temporaryFolder := "/t"

def emptyReportOptions : Options :=
  ⟨"p", "c", "/", "a", none, none, false, .text⟩

def emptyReportSettings : Effective :=
  .ofSettings "linux" { Settings.unset with analyzers := [("a", "x")] }
    ⟨some "/", some "a", none, none⟩

theorem effective_emptyReport :
    effective "linux" emptyReportWorld emptyReportOptions = .ok emptyReportSettings := by
  have read : emptyReportWorld.readText "c" = .ok "analyzers.a=\"x\"" := by cbv
  have parsed : Settings.parse? "analyzers.a=\"x\""
      = some { Settings.unset with analyzers := [("a", "x")] } := by
    decide +kernel
  simp only [effective, emptyReportOptions, Settings.load, read, Settings.ofText, parsed]
  rfl

theorem scan_emptyReport :
    RecordingHost.scan emptyReportWorld "go" "/p" ["go"] .relative
      = .ok ⟨"go", ["a.go"], [("a.go", 0)], [], []⟩ := by
  have starts : emptyReportWorld.StartsAt "/p" ["p"] (.folder [("a.go", .file [] .readable)]) :=
    .here (by cbv) rfl nofun
  have named : (Node.folder [("a.go", .file [] .readable)]).WellNamed :=
    Node.wellNamed_folder (by decide) (by simpa using ⟨by decide, Node.wellNamed_file⟩)
  rw [RecordingHost.scan_eq starts named (by decide +kernel)]
  exact congrArg Except.ok (by decide +kernel)

def emptyReportPass :
    Decoded emptyReportSystem emptyReportWorld emptyReportOptions emptyReportSettings where
  folder := "/p"
  resolved := by cbv
  host := ⟨"go", ["a.go"], [("a.go", 0)], [], []⟩
  scanned := scan_emptyReport
  bundle := ⟨"/", .withEntries [("a", "x")], "/t"⟩
  located := rfl
  binary := ⟨"/x", none⟩
  beside := emptyReportWorld
  extracted := by cbv
  captured := ⟨"[]", "", some 0⟩
  after := emptyReportWorld
  analyzed := by cbv
  reports := []
  decoded := by cbv

/-- The same is told in both forms of an analyzer that finds nothing; where a folder
is named for the settings, there is no pass at all. -/
theorem run_concludes_emptyReport :
    let asText := ["--config", "c", "--bundle", "/", "--os-name", "a", "p"]
    let told := "0 files reported, 0 matched, 0 issues saved, 0 rejected\n"
    let ended (arguments : List String) := (run emptyReportSystem arguments emptyReportWorld).1
    Request.ofArguments asText = .ok (.pass emptyReportOptions)
      ∧ ended asText = some ⟨told, "", 0⟩
      ∧ (∃ account outcome, account.text = told
          ∧ ended ("--format=json" :: asText) = some outcome ∧ TellsInJson account outcome)
      ∧ ∃ outcome, ended ["--config", "p", "p"] = some outcome
        ∧ outcome.exitCode = 2 ∧ outcome.stdout = "" := by
  intro asText told ended
  have accepted : Request.ofArguments asText = .ok (.pass emptyReportOptions) := by
    decide +kernel
  have alike : Request.ofArguments ("--format=json" :: asText)
      = .ok (.pass { emptyReportOptions with format := .json }) := by
    decide +kernel
  have whole : ended asText = some ⟨told, "", 0⟩ := by
    have same := @runPass_of_effective emptyReportSystem _ _ _ effective_emptyReport
    simp only [ended, run_of_accepted accepted, same, emptyReportPass.runWith_eq.1]
    decide +kernel
  obtain ⟨-, -, -, -, -, -, success⟩ :=
    @run_concludes emptyReportSystem emptyReportWorld _ _ accepted
  obtain ⟨settings, -, done, toldBy⟩ := (success _ whole).2 rfl
  have text : told = done.account.text := toldBy.text rfl
  obtain ⟨other, otherEnded, inJson⟩ := toldBy.json _ alike
  have folder : Request.ofArguments ["--config", "p", "p"]
      = .ok (.pass ⟨"p", "p", none, none, none, none, false, .text⟩) := by
    decide +kernel
  have unreadable : emptyReportWorld.readText "p" = .error (.system .isFolder) := by cbv
  have failed : SettingsFail emptyReportWorld ⟨"p", "p", none, none, none, none, false, .text⟩ := by
    refine ⟨"p", .named rfl, ?_⟩
    rintro ⟨text, settings, read, -⟩
    rw [unreadable] at read
    contradiction
  obtain ⟨-, two, -, -, -, -, silent⟩ :=
    @run_concludes emptyReportSystem emptyReportWorld _ _ folder
  obtain ⟨outcome, failedRun, code⟩ := Option.map_eq_some_iff.mp (two.mpr failed)
  exact ⟨accepted, whole, ⟨done.account, other, text.symm, otherEnded, inJson⟩, outcome, failedRun,
    code, (silent outcome failedRun).1 (by rw [code]; decide)⟩

end Findings.CommandLine
