import Findings.Simulation.Machine.Descriptor
import Findings.Simulation.Machine.Signal
import Findings.Simulation.Shell.Syntax

/-!
Contract: the state of a shell.

Owns:
- `State`, with the variables, the functions and the children of a shell;
- `Script`, acts of a process that change a shell and may be left early;
- variables, and what they are given back at the end of a function;
- complaints.

The files, the descriptors and the signals of the process belong to the machine.
-/

namespace Findings.Simulation.Shell

/-! ## Shells -/

structure Child where
  process : Nat
  ending? : Option Ending

structure Job where
  number : Nat
  children : List Child
  /-- Whether the script has waited for the job. -/
  isAwaited : Bool

/-- A variable; it may be marked before it has a value. -/
structure Binding where
  name : List Char
  value : Option (List Char)
  isExported : Bool
  isReadOnly : Bool

structure Function where
  name : List Char
  body : Command

inductive Saved where
  | variable (name : List Char) (binding : Option Binding)
  | options (options : List Char)

inductive Escape where
  /-- The shell found a fault. -/
  | failed
  /-- The script ends. -/
  | ended
  /-- Out of a function or a file, perhaps with a status that was asked for. -/
  | returned (hasStatus : Bool)
  /-- Out of a number of loops, or on to the next round of the last of them. -/
  | leaving (loops : Nat) (again : Bool)
deriving DecidableEq, Repr

structure FoundProgram where
  name : List Char
  /-- The number of folders that were looked through in vain. -/
  index : Nat
  /-- Whether it may be another one by now. -/
  isStale : Bool

structure State where
  /-- The name that the script was started by. -/
  name : List Char
  parameters : List (List Char)
  bindings : List Binding
  /-- What was made local, the innermost first. -/
  frames : List (List Saved)
  functions : List Function
  aliases : List (List Char × List Char)
  /-- The programs that were found by their names. -/
  found : List FoundProgram
  options : List Char
  /-- What is done on signals; the end of the script counts as signal zero. -/
  traps : List (Nat × List Char)
  /-- The signals that were ignored from the start, about which nothing can be
  done. -/
  fixedSignals : List Nat
  documents : List Document
  freshDocument : Nat
  status : Nat
  /-- The status of the last command whose output was put in. -/
  outputStatus : Nat
  /-- The status that the script ends with while something is done at its
  end. -/
  keptStatus : Option Nat
  /-- The process that counts as the script. -/
  rootProcess : Nat
  /-- Whether this is a child of the script. -/
  isChild : Bool
  jobs : List Job
  /-- The last process that was started beside the script. -/
  latest : Option Nat
  /-- The path of the current folder, as it was gone to. -/
  folder : List Char
  /-- The line of the command that runs. -/
  line : Nat
  /-- The part of the shell that runs, if one does. -/
  command : Option (List Char)
  /-- The line that the text of the script was read up to. -/
  readLine : Nat
  /-- How many loops are around the command. -/
  loops : Nat
  /-- How many functions are around the command. -/
  depth : Nat
  /-- Whether the prompt of a trace is made. -/
  isTracing : Bool
  mask : Nat
  /-- The number of the parameter that is looked through for options next, and how
  far the one in front of it was. -/
  optionPlace : Nat × Nat

/-- Acts of a process that change a shell, and may be left early. -/
abbrev Script (α : Type) := ExceptT Escape (StateT State Action) α

/-! ## Running -/

namespace Script

def caught {α : Type} (script : Script α) : Script (Except Escape α) :=
  fun shell => do
    let (result, shell) ← script shell
    return (.ok result, shell)

def resume {α : Type} : Except Escape α → Script α
  | .ok value => return value
  | .error escape => throw escape

/-- Does something behind a script even if it is left early. -/
def ensuring {α : Type} (script : Script α) (cleanup : Script Unit) : Script α := do
  let result ← script.caught
  cleanup
  resume result

/-- Changes the shell behind a script even if it is left early; the change sees
the shell in front of the script first. -/
def restoring {α : Type} (restore : State → State → State) (script : Script α) : Script α := do
  let before ← get
  ensuring script (modify (restore before))

def setStatus (status : Nat) : Script Unit :=
  modify fun shell => { shell with status := status }

def succeed (success : Bool) : Script Unit :=
  setStatus (if success then 0 else 1)

def observe {α : Type} (view : Machine → α) : Script α :=
  Action.observe view

/-- The files as they are found from the current folder. -/
def world : Script World :=
  observe Machine.world

end Script

namespace State

/-! ## Variables -/

def has (shell : State) (option : Char) : Bool :=
  shell.options.contains option

def binding? (shell : State) (name : List Char) : Option Binding :=
  shell.bindings.find? (·.name = name)

def valueOf? (shell : State) (name : List Char) : Option (List Char) :=
  (shell.binding? name).bind Binding.value

def valueOf (shell : State) (name : String) : List Char :=
  (shell.valueOf? name.toList).getD []

/-- Puts a variable in the place of one of the same name, or behind all
others. -/
def bind (shell : State) (binding : Binding) : State :=
  if shell.bindings.any (·.name = binding.name) then
    { shell with
      bindings := shell.bindings.map fun other =>
        if other.name = binding.name then binding else other }
  else
    { shell with bindings := shell.bindings ++ [binding] }

def unbind (shell : State) (name : List Char) : State :=
  { shell with bindings := shell.bindings.filter (·.name ≠ name) }

/-- Gives a variable a value, even if it is protected. -/
def assign (shell : State) (name value : List Char) : State :=
  let shell := if name = "PATH".toList then { shell with found := [] } else shell
  let shell :=
    if name = "OPTIND".toList then { shell with optionPlace := (1, 0) } else shell
  match shell.binding? name with
  | some binding => shell.bind { binding with value := some value }
  | none => shell.bind ⟨name, some value, shell.has 'a', false⟩

def separators (shell : State) : List Char :=
  (shell.valueOf? "IFS".toList).getD [' ', '\t', '\n']

/-- The sum of the octets of a name, where the first one counts seventeen
times. -/
def nameSum (name : List Char) : Nat :=
  16 * ((name.head?.map Char.toNat).getD 0) + (name.map Char.toNat).foldl (· + ·) 0

/-- In how many groups variables are told to programs. -/
def environmentGroups : Nat := 39

/-- The variables that programs are told, in groups by their names. -/
def environment (shell : State) : List (List Char × List Char) :=
  let told := (shell.bindings.filter (·.isExported)).filterMap fun binding =>
    binding.value.map fun value => (binding.name, value)
  told.mergeSort fun left right =>
    nameSum left.1 % environmentGroups ≤ nameSum right.1 % environmentGroups

/-- Keeps what something was, for the end of the innermost frame. -/
def save (shell : State) (saved : Saved) : State :=
  match shell.frames with
  | frame :: frames => { shell with frames := (saved :: frame) :: frames }
  | [] => shell

/-- Keeps what a variable was, for the end of the innermost frame. -/
def saveBinding (shell : State) (name : List Char) : State :=
  shell.save (.variable name (shell.binding? name))

def pushFrame (shell : State) : State :=
  { shell with frames := [] :: shell.frames }

/-- Gives what was made local in the innermost frame back what it was. -/
def dropFrame (shell : State) : State :=
  match shell.frames with
  | frame :: frames =>
    frame.foldl
      (fun shell saved =>
        match saved with
        | .options options => { shell with options := options }
        | .variable name binding =>
          let shell := if name = "PATH".toList then { shell with found := [] } else shell
          match binding with
          | some binding => shell.bind binding
          | none => shell.unbind name)
      { shell with frames := frames }
  | [] => shell

end State

/-! ## Complaints -/

namespace Script

/-- Writes octets to the output, and gives the fault if that cannot be done. -/
def write (descriptor : Nat) (octets : List Char) : Script (Except SystemFault Unit) :=
  if octets.isEmpty then return .ok () else Action.write descriptor octets

def putError (wording : List Char) : Script Unit := do
  let _ ← write 2 (wording ++ ['\n'])

/-- What stands in front of a complaint: the name of the script, its line and
the part of the shell that runs. -/
def complaintStart : Script (List Char) := do
  let shell ← get
  let part := match shell.command with
    | some command => command ++ [':', ' ']
    | none => []
  return shell.name ++ ": ".toList ++ (toString shell.line).toList ++ ": ".toList ++ part

def warnOf (wording : List Char) : Script Unit := do
  putError ((← complaintStart) ++ wording)

def warn (wording : String) : Script Unit :=
  warnOf wording.toList

def failOf {α : Type} (wording : List Char) (status : Nat) : Script α := do
  setStatus status
  warnOf wording
  throw .failed

def fail {α : Type} (wording : String) : Script α :=
  failOf wording.toList 2

/-- Writes octets to the output of a part of the shell, which fails if that
cannot be done. -/
def put (octets : List Char) : Script Unit := do
  match ← write 1 octets with
  | .ok _ => return
  | .error _ =>
    warnOf (((← get).command.getD []) ++ ": I/O error".toList)
    setStatus ((← get).status ||| 1)

/-- Gives a variable a value, unless it is protected. -/
def setVariable (name value : List Char) : Script Unit := do
  match (← get).binding? name with
  | some ⟨_, _, _, true⟩ => failOf (name ++ ": is read only".toList) 2
  | _ => modify (·.assign name value)

end Script

end Findings.Simulation.Shell
