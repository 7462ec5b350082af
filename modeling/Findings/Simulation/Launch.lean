import Findings.Process.Launch
import Findings.Simulation.Machine.Schedule
import Findings.Simulation.Tool.Table

/-!
Contract: starting a program of the simulated system.

Owns:
- the order in which the faults of a start are found: octets of zero, the working
  folder, the file, whether it may be run, and its first line;
- `launcher`, which tells programs of some variables.

Does not own: what the programs of the system do.
-/

namespace Findings.Simulation

def firstProcess : Nat := 100

/-- A program with its words and the variables that it is told. -/
def callOf (told : List (String × String)) (invocation : Invocation) : ProgramCall where
  words := invocation.commandLine.map octetsOf
  environment := told.map fun (name, value) => (octetsOf name, octetsOf value)

/-- A machine whose only process has nothing to read and both of whose outputs are
captured. -/
def capturedMachine (root : Node) (folder : List String) : Machine :=
  .start root folder [(0, .device .null), (1, .stream .stdout), (2, .stream .stderr)] firstProcess

/-- The machine that a program starts on, and what it does there. -/
def startable (world : World) (folder : String) (call : ProgramCall) (program : String) :
    Except SystemFault (Machine × Program) := do
  let folder ← world.resolve true (joinPath folder ".")
  let machine := capturedMachine world.root folder
  let (name, call) ← machine.image program call
  match Tool.programs.lookup name with
  | some tool => return (machine, Action.toProgram (tool Tool.launch call))
  | none => throw .notExecutable

/-- Starts programs of the system.  What a program does is looked at up to its
limit. -/
def launcher (told : List (String × String)) : Launcher World :=
  fun limit invocation world => do
    let texts := invocation.workingFolder :: invocation.commandLine
    if texts.any fun text => text.toList.contains '\x00' then
      throw (.system .zeroOctet)
    let (machine, program) ← (startable world invocation.workingFolder
      (callOf told invocation) invocation.program).mapError .system
    let (machine, completed) := machine.run program limit
    return (machine.timeline firstProcess completed, { world with root := machine.root })

end Findings.Simulation
