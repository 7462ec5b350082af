import Findings.CommandLine.Output
import Findings.Host.Scan
import Findings.Pass.Analyzer
import Findings.Settings.Effective
import Findings.Settings.File

/-!
Contract: the program as a function of its arguments, the files around it and the
system that it runs on.

Owns:
- `System`, what the system has to say: what it is called, and what comes of
  starting programs;
- `CommandError`, why the program fails, with wording and exit code;
- `runPass`, one pass over a folder with the settings in effect, with a record
  of what is done to files and programs;
- `run`, what the program writes and ends with.

Settings are read before the folder is looked at; faults of the arguments and
of the settings end with 2, those of the pass with 1.  The program waits for ever
for an analyzer that never ends, unless there is a limit.
-/

namespace Findings.CommandLine

/-- The system that the program runs on. -/
structure System where
  /-- The word that the build has for the system. -/
  target : String
  launch : Launcher World

/-! ## Errors -/

inductive CommandError where
  | usage (error : UsageError)
  | settings (error : SettingsError)
  /-- The folder cannot be found. -/
  | folder (fault : SystemFault)
  /-- The files below the folder are not known. -/
  | scan (fault : ScanFault)
  /-- There is no bundle to take an analyzer from. -/
  | bundle (error : ExtractionError)
  | pass (error : PassError)
deriving DecidableEq, Repr

/-- The wording of an error, without its line end. -/
def CommandError.message : CommandError → String
  | usage error => "error: " ++ error.message
  | settings error => "Error: " ++ error.message
  | folder fault => "Error: " ++ (IoFault.system fault).message
  | scan fault => "Error: " ++ fault.message
  | bundle error => "Error: " ++ error.message
  | pass error => "Error: " ++ error.message

def CommandError.exitCode : CommandError → Nat
  | usage _ | settings _ => 2
  | folder _ | scan _ | bundle _ | pass _ => 1

/-! ## A pass -/

def effective (target : String) (world : World) (options : Options) :
    Except SettingsError Effective := do
  let settings ← match options.config with
    | some path => Settings.load world path
    | none => Settings.discover world options.folder
  return .ofSettings target settings
    ⟨options.bundle, options.osName, options.timeoutSeconds, options.language⟩

/-- What is told of a program whose folder the system does not tell. -/
def unknownProgram : IoFault :=
  .other "no /proc/self/exe available. Is /proc mounted?"

/-- The path of the bundle that is used; without a setting it is the folder of
the program. -/
def bundlePath (world : World) (effective : Effective) : Except ExtractionError String :=
  match effective.bundle with
  | some path => .ok path
  | none =>
    match world.programFolder with
    | some path => .ok path
    | none => .error (.io unknownProgram)

def bundleOf (world : World) (effective : Effective) : Except ExtractionError Bundle :=
  (bundlePath world effective).map fun path =>
    { path, analyzers := effective.analyzers, temporaryFolder := world.temporaryFolder }

/-- The number of nanoseconds that an analyzer may take. -/
def limitOf (effective : Effective) : Option Nat :=
  effective.timeoutSeconds.map fun seconds => seconds.toNat * Nat.pow 10 9

def passOf (effective : Effective) (folder : String) : Pass where
  osName := effective.osName
  language := effective.language
  target := folder

def styleOf (options : Options) : PathStyle :=
  if options.absolutePaths then .absolute else .relative

inductive CommandEvent where
  /-- The files below a folder are listed. -/
  | scan (folder : String)
  | pass (event : PassEvent String)
deriving DecidableEq, Repr

/-- How far the program comes with a pass, with the files after it and what was done,
in order. -/
structure CommandRun where
  /-- What the program writes, unless it waits for ever. -/
  result : Option (Except CommandError String)
  world : World
  events : List CommandEvent

def runWith (launcher : Launcher World) (world : World) (options : Options)
    (effective : Effective) : CommandRun :=
  match world.canonical options.folder with
  | .error fault => ⟨some (.error (.folder fault)), world, []⟩
  | .ok folder =>
    match RecordingHost.scan world effective.language folder effective.fileSuffixes
      (styleOf options) with
    | .error fault => ⟨some (.error (.scan fault)), world, [.scan folder]⟩
    | .ok host =>
      match bundleOf world effective with
      | .error error => ⟨some (.error (.bundle error)), world, [.scan folder]⟩
      | .ok bundle =>
        let run := (passOf effective folder).execute
          (bundle.stages launcher (limitOf effective)) RecordingHost.host host world
        let events := .scan folder :: run.trace.map fun event => .pass event.1
        let told (outcome : Except PassError PassResult) : Except CommandError String :=
          match outcome with
          | .error error => .error (.pass error)
          | .ok result => .ok (output options.format result.summary run.host)
        ⟨run.outcome.map told, run.surroundings, events⟩

/-- One pass over the folder of the arguments. -/
def runPass (system : System) (world : World) (options : Options) : CommandRun :=
  match effective system.target world options with
  | .error error => ⟨some (.error (.settings error)), world, []⟩
  | .ok effective => runWith system.launch world options effective

/-! ## The program -/

structure Outcome where
  stdout : String
  stderr : String
  exitCode : Nat
deriving DecidableEq, Repr

def Outcome.of : Except CommandError String → Outcome
  | .ok text => ⟨text, "", 0⟩
  | .error error => ⟨"", unlines [error.message], error.exitCode⟩

/-- What the program does for its arguments, and the files after it.  It has no outcome
if it waits for ever. -/
def run (system : System) (arguments : List String) (world : World) : Option Outcome × World :=
  match Request.ofArguments arguments with
  | .error error => (some (.of (.error (.usage error))), world)
  | .ok .version => (some (.of (.ok versionText)), world)
  | .ok .help => (some (.of (.ok helpText)), world)
  | .ok (.pass options) =>
    let run := runPass system world options
    (run.result.map .of, run.world)

end Findings.CommandLine
