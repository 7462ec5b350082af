import Findings.Simulation.Shell.Run

/-!
Contract: the shell as a program.

Owns:
- the state that a shell begins with;
- its command line: options, the text of a script or the file of one, and the
  parameters;
- `shell`, the program.
-/

namespace Findings.Simulation.Shell

/-! ## Beginning -/

/-- The variables that every shell has, unless it is told otherwise. -/
def standardVariables : List (String × String) := [
  ("IFS", " \t\n"), ("OPTIND", "1"), ("PS1", "# "), ("PS2", "> "), ("PS4", "+ ")]

/-- The variables of a new shell, given those that it is told. -/
def firstBindings (parent : Nat) (environment : List (List Char × List Char)) : List Binding :=
  let told := (environment.filter fun entry => isName entry.1).map fun (name, value) =>
    (⟨name, some value, true, false⟩ : Binding)
  let own (name : String) (value : List Char) : Binding := ⟨name.toList, some value, false, false⟩
  let standard := standardVariables.map fun (name, value) => own name value.toList
  let standard := standard ++ [own "PPID" (digitsOf parent), own "PATH" standardFolders]
  let isFixed (name : List Char) : Bool :=
    ["IFS".toList, "OPTIND".toList, "PPID".toList].contains name
  let told := told.filter fun binding => !isFixed binding.name
  standard.filter (fun binding => !told.any (·.name = binding.name)) ++ told

def State.start (process : Process) (call : ProgramCall) : State where
  name := call.name
  parameters := []
  bindings := firstBindings process.parent call.environment
  frames := []
  functions := []
  aliases := []
  found := []
  options := []
  traps := []
  fixedSignals := process.ignored
  documents := []
  freshDocument := 0
  status := 0
  outputStatus := 0
  keptStatus := none
  rootProcess := process.number
  isChild := false
  jobs := []
  latest := none
  folder := []
  line := 0
  command := none
  readLine := 0
  loops := 0
  depth := 0
  isTracing := false
  mask := 18
  optionPlace := (1, 0)

/-- Goes by the path of the folder that the shell is told, if it leads to the folder
of the process. -/
def enterFirstFolder : Script Unit := do
  let physical ← physicalFolder
  let told := (← get).valueOf "PWD"
  let world ← Script.world
  let here ← Script.observe fun machine => (machine.self?.map Process.folder).getD []
  let isHere := told.head? = some '/' && (world.resolve true (textOf told)).toOption = some here
  let folder := if isHere then told else physical
  modify fun shell => { shell with folder := folder }
  setExported "PWD" folder

/-! ## The program -/

/-- Sets the parameters, and the name of the script if it is not that of the
shell. -/
def setWords (name : Option (List Char)) (parameters : List (List Char)) : Script Unit := do
  modify fun shell => { shell with name := name.getD shell.name }
  setParameters parameters

/-- Runs the script that is read from a descriptor. -/
def runDescriptor (launch : Launch) (descriptor : Nat) : Script Unit := do
  let _ ← runText launch maxNesting ⟨false, false⟩ ⟨Reader.ofText [] 1, some descriptor⟩

def runCommandLine (launch : Launch) (words : List (List Char)) : Script Unit := do
  enterFirstFolder
  let (operands, asksText) ← setOptions true words
  let operands := operands.getD []
  if asksText then
    match operands with
    | [] => Script.fail "-c requires an argument"
    | text :: more =>
      setWords more.head? more.tail
      let mode : Mode := ⟨false, !(← get).has 's'⟩
      let _ ← runText launch maxNesting mode (.ofText text)
      if (← get).has 's' then
        runDescriptor launch 0
  else
    match operands, (← get).has 's' with
    | [], _ =>
      modify fun shell => { shell with options := 's' :: shell.options }
      runDescriptor launch 0
    | operands, true =>
      setWords none operands
      runDescriptor launch 0
    | path :: more, false =>
      let descriptor ← Script.openScript path
      setWords (some path) more
      runDescriptor launch descriptor

end Findings.Simulation.Shell

namespace Findings.Simulation.Tool

def shell : Tool := fun launch call => do
  let process? ← Action.observe Machine.self?
  match process? with
  | none => return 0
  | some process =>
    let start := Shell.State.start process call
    let script := Shell.finishing launch Shell.maxNesting
      (Shell.runCommandLine launch call.arguments)
    let (result, after) ← script start
    return result.toOption.getD after.status

end Findings.Simulation.Tool
