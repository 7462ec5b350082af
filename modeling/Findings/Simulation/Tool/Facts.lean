import Findings.Simulation.Tool.Lines
import Findings.Simulation.Tool.Place

/-!
Contract: programs that tell something about the system.

Owns:
- who runs a program, and on what;
- the folder and the programs that are there;
- the time.

Everybody is the same user.  The clock begins at the start of a machine.
-/

namespace Findings.Simulation.Tool

def putLine (program : String) (line : String) : Action Nat := do
  put program (octetsOf line ++ ['\n'])
  return 0

/-- Writes a line that does not depend on anything, unless there are operands. -/
def constantLine (line : String) : Tool := fun _ call => do
  let arguments ← argumentsOf call.program 1 [] false call.arguments
  match arguments.operands with
  | [] => putLine call.program line
  | operand :: _ => refuseExtra call.program operand

def userName : String := "root"

def whoami : Tool := constantLine userName

def hostname : Tool := constantLine "localhost"

def machineKind : String := "x86_64"

def arch : Tool := constantLine machineKind

def nproc : Tool := constantLine "1"

def logname : Tool := fun _ call => do
  complain call.program "no login name".toList
  return 1

/-- Does nothing, since all that is written is there at once. -/
def sync : Tool := fun _ _ => return 0

def tty : Tool := fun _ call => do
  let arguments ← argumentsOf call.program 2 [⟨'s', "silent", .never⟩] false call.arguments
  if !arguments.has 's' then
    let _ ← putLine call.program "not a tty"
  return 1

def identity : Tool := fun _ call => do
  let program := call.program
  let arguments ← argumentsOf program 1 [
    ⟨'a', "", .never⟩, ⟨'G', "groups", .never⟩, ⟨'g', "group", .never⟩, ⟨'n', "name", .never⟩,
    ⟨'r', "real", .never⟩, ⟨'u', "user", .never⟩] false call.arguments
  match arguments.operands with
  | operand :: _ =>
    if textOf operand ≠ userName then
      complain program (quoted operand ++ ": no such user".toList)
      Action.exit 1
  | [] => pure ()
  if ['u', 'g', 'G'].any arguments.has then
    putLine program (if arguments.has 'n' then userName else "0")
  else
    putLine program "uid=0(root) gid=0(root) groups=0(root)"

def uname : Tool := fun _ call => do
  let program := call.program
  let arguments ← argumentsOf program 1 [
    ⟨'a', "all", .never⟩, ⟨'i', "hardware-platform", .never⟩, ⟨'m', "machine", .never⟩,
    ⟨'n', "nodename", .never⟩, ⟨'o', "operating-system", .never⟩, ⟨'p', "processor", .never⟩,
    ⟨'r', "kernel-release", .never⟩, ⟨'s', "kernel-name", .never⟩,
    ⟨'v', "kernel-version", .never⟩] false call.arguments
  match arguments.operands with
  | operand :: _ => refuseExtra program operand
  | [] => pure ()
  let parts := [
    ('s', "Linux"), ('n', "localhost"), ('r', "6.1.0"), ('v', "#1 SMP"), ('m', machineKind),
    ('o', "GNU/Linux")]
  let letters := if arguments.has 'a' then parts.map Prod.fst
    else if arguments.options.isEmpty then ['s'] else arguments.options.map GivenOption.letter
  let chosen := parts.filter fun part => letters.contains part.1
  putLine program (" ".intercalate (chosen.map Prod.snd))

/-- Writes the path of the folder, without links unless it is asked for. -/
def pwd : Tool := fun _ call => do
  let program := call.program
  let arguments ← argumentsOf program 1
    [⟨'L', "logical", .never⟩, ⟨'P', "physical", .never⟩] false call.arguments
  if !arguments.operands.isEmpty then
    complain program "ignoring non-option arguments".toList
  let world ← world
  let told := (call.valueOf? "PWD").getD []
  let isHere := told.head? = some '/'
    && (world.resolve true (textOf told)).toOption = some world.current
  if arguments.lastOf? ['L', 'P'] = some 'L' && isHere then
    put program (told ++ ['\n'])
    return 0
  else
    putLine program (locationPath world.current)

def which : Tool := fun _ call => do
  let program := call.program
  let arguments ← argumentsOf program 2
    [⟨'a', "", .never⟩, ⟨'s', "", .never⟩] false call.arguments
  let world ← world
  let folders := splitAt (· = ':') ((call.valueOf? "PATH").getD [])
  let isProgram (path : List Char) : Bool :=
    (world.find (textOf path)).toOption.any Node.isExecutable
  let mut isWhole := true
  for name in arguments.operands do
    let paths := if name.contains '/' then [name] else folders.map (inside · name)
    let found := paths.filter isProgram
    put program (linesText (if arguments.has 'a' then found else found.take 1))
    if found.isEmpty then
      isWhole := false
  return if isWhole && !arguments.operands.isEmpty then 0 else 1

end Findings.Simulation.Tool
