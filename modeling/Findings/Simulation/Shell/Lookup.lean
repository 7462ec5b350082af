import Findings.Simulation.Shell.Control
import Findings.Simulation.Tool.Basic

/-!
Contract: what the name of a command stands for.

Owns:
- `Target`, a function, a part of the shell or a program;
- looking through folders for programs, which are kept in mind;
- going on as a program, or as a shell that reads it as a script;
- the parts of the shell that tell what names stand for.
-/

namespace Findings.Simulation.Shell

/-! ## Targets -/

inductive Target where
  | function (body : Command)
  | builtin (name : String)
  /-- The program of the name, of which there is none in a number of folders. -/
  | program (index : Nat)
  | missing (fault : SystemFault)

/-- The parts of the shell that run commands or look for them. -/
def runningBuiltins : List String :=
  [".", "command", "eval", "exec", "hash", "type"]

/-- The parts of the shell that have nothing to do with other commands. -/
def builtin? (name : String) : Option Builtin :=
  (plainBuiltins.lookup name).or (controlBuiltins.lookup name)

def isBuiltin (name : String) : Bool :=
  runningBuiltins.contains name || (builtin? name).isSome

/-- The folders that are looked through if the script does not name any. -/
def standardFolders : List Char :=
  "/usr/local/sbin:/usr/local/bin:/usr/sbin:/usr/bin:/sbin:/bin".toList

def launchWording (fault : SystemFault) : List Char :=
  match fault with
  | .missing | .notFolder => "not found".toList
  | fault => fault.wording.toList

def launchStatus (fault : SystemFault) : Nat :=
  match fault with
  | .missing | .notFolder | .tooManyLinks | .nameTooLong => 127
  | _ => 126

namespace State

def function? (shell : State) (name : List Char) : Option Command :=
  (shell.functions.find? (·.name = name)).map Function.body

/-- The function or the part of the shell that a name stands for. -/
def inside? (shell : State) (skipsFunctions : Bool) (name : List Char) : Option Target :=
  let function := if skipsFunctions then none else shell.function? name
  match function with
  | some body => some (.function body)
  | none => if isBuiltin (textOf name) then some (.builtin (textOf name)) else none

def folders (shell : State) (usesStandard : Bool) : List (List Char) :=
  searchFolders (if usesStandard then standardFolders else shell.valueOf "PATH")

end State

/-! ## Programs -/

/-- Looks through numbered folders for a program.  The one that was found before
counts without being looked at if its folder has an absolute path. -/
def searchFrom (world : World) (name : List Char) (known : Option Nat) :
    SystemFault → List (Nat × List Char) → Except SystemFault Nat
  | fault, [] => .error fault
  | fault, (index, folder) :: more =>
    let isAbsolute := folder.head? = some '/'
    if isAbsolute && known.any (index < ·) then
      searchFrom world name known fault more
    else if isAbsolute && known = some index then
      .ok index
    else
      match world.find (textOf (pathInside folder name)) with
      | .ok node =>
        if node.isExecutable then .ok index else searchFrom world name known .denied more
      | .error .missing | .error .notFolder => searchFrom world name known fault more
      | .error fault => searchFrom world name known fault more

namespace Script

/-- Looks for a program, and keeps it in mind unless it is one of the standard
folders that is meant. -/
def locateProgram (usesStandard : Bool) (name : List Char) : Script Target := do
  let shell ← get
  let known := if usesStandard then none else shell.found.find? (·.name = name)
  match known with
  | some ⟨_, index, false⟩ => return .program index
  | known =>
    let folders := shell.folders usesStandard
    let numbered := (List.range folders.length).zip folders
    match searchFrom (← world) name (known.map FoundProgram.index) .missing numbered with
    | .error fault =>
      modify fun shell => { shell with found := shell.found.filter (·.name ≠ name) }
      return .missing fault
    | .ok index =>
      if !usesStandard then
        let program : FoundProgram := ⟨name, index, false⟩
        modify fun shell =>
          { shell with
            found :=
              if known.isSome then
                shell.found.map fun other => if other.name = name then program else other
              else shell.found ++ [program] }
      return .program index

def locate (skipsFunctions usesStandard : Bool) (name : List Char) : Script Target := do
  if name.contains '/' then
    return .program 0
  else
    match (← get).inside? skipsFunctions name with
    | some target => return target
    | none => locateProgram usesStandard name

/-- Goes on as a program.  A file that is none is read as a script by a shell. -/
def launchFile (launch : Launch) (path : List Char) (call : ProgramCall) : Action SystemFault := do
  match ← launch path call with
  | .notExecutable =>
    let shell := "/bin/sh".toList
    launch shell { call with words := shell :: path :: call.arguments }
  | fault => return fault

/-- Goes on as the first program of a name in some folders that can be run; the
last fault that is not about a missing file counts. -/
def launchFirst (launch : Launch) (call : ProgramCall) :
    SystemFault → List (List Char) → Action SystemFault
  | fault, [] => return fault
  | fault, folder :: more => do
    match ← launchFile launch (pathInside folder call.name) call with
    | .missing | .notFolder => launchFirst launch call fault more
    | other => launchFirst launch call other more

/-- Goes on as the program that a command names; otherwise complains and gives
the status. -/
def become (launch : Launch) (usesStandard : Bool) (index : Nat) (words : List (List Char)) :
    Script Nat := do
  let shell ← get
  let call : ProgramCall := ⟨words, shell.environment⟩
  let fault ← (if call.name.contains '/' then launchFile launch call.name call
    else launchFirst launch call .missing ((shell.folders usesStandard).drop index) :
      Action SystemFault)
  warnOf (call.name ++ ": ".toList ++ launchWording fault)
  return launchStatus fault

end Script

/-! ## Describing names -/

/-- Says what a name stands for, and gives the status. -/
def describe (isVerbose usesStandard : Bool) (name : List Char) : Script Nat := do
  let shell ← get
  let say (wording : List Char) (plain : List Char) : Script Nat := do
    Script.put ((if isVerbose then name ++ wording else plain) ++ ['\n'])
    return 0
  let isKnown := !usesStandard && shell.found.any (·.name = name)
  if reservedWords.contains (textOf name) then
    say " is a shell keyword".toList name
  else
    match shell.aliases.find? (·.1 = name) with
    | some (_, value) =>
      say (" is an alias for ".toList ++ value)
        ("alias ".toList ++ name ++ '=' :: quotedText value)
    | none =>
      if name.contains '/' then
        match (← Script.world).find (textOf name) with
        | .ok _ => say (" is ".toList ++ name) name
        | .error _ => missing
      else
        match ← Script.locate false usesStandard name with
        | .function _ => say " is a shell function".toList name
        | .builtin builtin =>
          let kind := if specialCommands.contains builtin then " is a special shell builtin"
            else " is a shell builtin"
          say kind.toList name
        | .program index =>
          let folder := ((shell.folders usesStandard).drop index).headD []
          let path := pathInside folder name
          let kind := if isKnown then " is a tracked alias for " else " is "
          say (kind.toList ++ path) path
        | .missing _ => missing
where
  /-- Says that a name stands for nothing. -/
  missing : Script Nat := do
    if isVerbose then
      Script.put (name ++ ": not found\n".toList)
    return 127

def describeNames : Builtin := fun words => do
  let statuses ← words.mapM (describe true false)
  Script.setStatus (statuses.foldl (· ||| ·) 0)

/-- In how many groups the programs that are kept in mind are shown. -/
def foundGroups : Nat := 31

/-- Shows the programs that are kept in mind, forgets them, or looks for some. -/
def rememberPrograms : Builtin := fun words => do
  let (options, names) ← optionsOf ['r'] words
  Script.setStatus 0
  if !options.isEmpty then
    modify fun shell => { shell with found := [] }
  else if names.isEmpty then
    let shell ← get
    let folders := shell.folders false
    let shown := shell.found.mergeSort fun left right =>
      State.nameSum left.name % foundGroups ≤ State.nameSum right.name % foundGroups
    Script.put (shown.flatMap fun program =>
      pathInside ((folders.drop program.index).headD []) program.name
        ++ (if program.isStale then ['*', '\n'] else ['\n']))
  else
    names.forM fun name => do
      modify fun shell => { shell with found := shell.found.filter (·.name ≠ name) }
      match ← Script.locate false false name with
      | .missing fault =>
        Script.warnOf (name ++ ": ".toList ++ launchWording fault)
        Script.setStatus 1
      | _ => return

end Findings.Simulation.Shell
