import Findings.Simulation.Tool.Files

/-!
Contract: programs that lead from sources to a target.

Owns:
- what the target of each source is: something inside a folder, or the target
  itself;
- copying, moving and linking.
-/

namespace Findings.Simulation.Tool

/-! ## Copying and moving -/

structure Transfer where
  program : String
  arguments : Arguments
  /-- What is done with one source. -/
  act : (source target : List Char) → Action Bool

/-- Goes through the sources of a program whose last operand is the target. -/
def transferAll (transfer : Transfer) (mayBeAlone : Bool) : Action Nat := do
  let program := transfer.program
  let operands := transfer.arguments.operands
  let folder := transfer.arguments.valueOf? 't'
  match operands, folder with
  | [], none => refuse program 1 "missing file operand".toList
  | [source], none =>
    if mayBeAlone then
      return if ← transfer.act source (inside ['.'] (lastPart source)) then 0 else 1
    else
      refuse program 1 ("missing destination file operand after ".toList ++ quotedName source)
  | operands, folder =>
    let sources := if folder.isSome then operands else operands.dropLast
    let target := folder.getD (operands.getLastD [])
    let isTargetFolder := (← isFolder target) && !transfer.arguments.has 'T'
    if !isTargetFolder && (1 < sources.length || folder.isSome) then
      let fault ← placeOf true target
      let wording := match fault with
        | .ok _ => SystemFault.notFolder
        | .error fault => fault
      complain program ((if folder.isSome then "target directory " else "target ").toList
        ++ quotedName target ++ ':' :: ' ' :: wording.wording.toList)
      Action.exit 1
    let mut status := 0
    for source in sources do
      let goal := if isTargetFolder then inside target (lastPart source) else target
      if !(← transfer.act source goal) then
        status := 1
    return status

def isSamePlace (follow : Bool) (left right : List Char) : Action Bool := do
  match ← placeOf follow left, ← placeOf follow right with
  | .ok left, .ok right => return left == right
  | _, _ => return false

def copyNode (arguments : Arguments) (program : String) (source target : List Char) :
    Action Bool := do
  let isDeep := ['r', 'R', 'a'].any arguments.has
  let keepsLinks := ['a', 'd', 'P'].any arguments.has
    || (isDeep && !arguments.has 'L' && !arguments.has 'H')
  let tell : Action Unit := do
    if arguments.has 'v' then
      put program (quotedName source ++ " -> ".toList ++ quotedName target ++ ['\n'])
  match ← nodeOf (!keepsLinks) source with
  | .error fault =>
    complainDoing program "cannot stat" source fault
    return false
  | .ok node =>
    let isThere := (← nodeOf true target).isOk
    if isThere && arguments.has 'n' then
      return true
    else if isThere && (← isSamePlace true source target) then
      complain program (quotedName source ++ " and ".toList ++ quotedName target
        ++ " are the same file".toList)
      return false
    else
      match node with
      | .folder entries =>
        if !isDeep then
          complain program ("-r not specified; omitting directory ".toList ++ quotedName source)
          return false
        else if isThere && !(← isFolder target) then
          complain program ("cannot overwrite non-directory ".toList ++ quotedName target
            ++ " with directory ".toList ++ quotedName source)
          return false
        else
          let result ← attempt fun machine => do
            let world := machine.world
            match world.find (textOf target) with
            | .ok (.folder old) =>
              let place ← world.resolve true (textOf target)
              let merged := entries.foldl (fun old entry => Dictionary.put entry.1 entry.2 old) old
              return machine.putNode place (.folder merged)
            | _ =>
              let place ← world.resolveNew (textOf (withoutEndSlashes target))
              return machine.putNode place (.folder entries)
          match result with
          | .ok () =>
            tell
            return true
          | .error fault =>
            complainDoing program "cannot create directory" target fault
            return false
      | .link goal =>
        match ← makeNode target (.link goal) with
        | .ok () =>
          tell
          return true
        | .error fault =>
          complainDoing program "cannot create symbolic link" target fault
          return false
      | .file _ _ | .device _ =>
        if isThere && (← isFolder target) then
          complain program ("cannot overwrite directory ".toList ++ quotedName target
            ++ " with non-directory".toList)
          return false
        else
          let result ← attempt fun machine => do
            let content ← machine.world.read (textOf source)
            let mode := match node with
              | .file _ mode => mode
              | _ => .readable
            let (channel, machine) ← match machine.openPath (textOf target) .write with
              | .error .isFolder => throw .notFolder
              | opened => opened
            match channel with
            | .file number =>
              match machine.files.lookup number with
              | some file =>
                let kept := match machine.root.at? file.location, isThere with
                  | some (.file _ old), true => old
                  | _, _ => mode
                return machine.putNode file.location (.file content kept)
              | none => return machine
            | _ => return machine
          match result with
          | .ok () =>
            tell
            return true
          | .error fault =>
            complainDoing program "cannot create regular file" target fault
            return false

def transferForms : List OptionForm := [
  ⟨'a', "archive", .never⟩, ⟨'d', "", .never⟩, ⟨'f', "force", .never⟩,
  ⟨'H', "", .never⟩, ⟨'i', "interactive", .never⟩, ⟨'L', "dereference", .never⟩,
  ⟨'n', "no-clobber", .never⟩, ⟨'P', "no-dereference", .never⟩, ⟨'p', "preserve", .maybe⟩,
  ⟨'r', "recursive", .never⟩, ⟨'R', "", .never⟩, ⟨'s', "symbolic", .never⟩,
  ⟨'T', "no-target-directory", .never⟩, ⟨'t', "target-directory", .always⟩,
  ⟨'u', "update", .maybe⟩, ⟨'v', "verbose", .never⟩]

/-- Copies files, or folders with all that is in them. -/
def cp : Tool := fun _ call => do
  let program := call.program
  let forms := transferForms.map fun form =>
    if form.letter = 'p' then { form with value := .never } else form
  let arguments ← argumentsOf program 1 forms false call.arguments
  transferAll ⟨program, arguments, copyNode arguments program⟩ false

def moveNode (arguments : Arguments) (program : String) (source target : List Char) :
    Action Bool := do
  let tell : Action Unit := do
    if arguments.has 'v' then
      put program ("renamed ".toList ++ quotedName source ++ " -> ".toList ++ quotedName target
        ++ ['\n'])
  match ← nodeOf false source with
  | .error fault =>
    complainDoing program "cannot stat" source fault
    return false
  | .ok node =>
    let isThere := (← nodeOf false target).isOk
    if isThere && arguments.has 'n' then
      return true
    else if isThere && (← isSamePlace false source target) then
      complain program (quotedName source ++ " and ".toList ++ quotedName target
        ++ " are the same file".toList)
      return false
    else
      let isFile := !(node matches .folder _)
      let result ← attempt fun machine => do
        let world := machine.world
        let start ← world.resolve false (textOf source)
        let goal ← match world.resolve false (textOf target) with
          | .ok place =>
            match node, world.root.at? place with
            | .folder _, some (.folder []) => .ok place
            | .folder _, some (.folder _) => .error .notEmpty
            | .folder _, _ => .error .notFolder
            | _, some (.folder _) => .error .isFolder
            | _, _ => .ok place
          | .error .missing =>
            if isFile && target.getLast? = some '/' then .error .notFolder
            else world.resolveNew (textOf (withoutEndSlashes target))
          | .error fault => .error fault
        if start.isPrefixOf goal then
          throw .invalid
        return ((machine.detach goal).eraseNode start).putNode goal node
      match result with
      | .ok () =>
        tell
        return true
      | .error .invalid =>
        complain program ("cannot move ".toList ++ quotedName source
          ++ " to a subdirectory of itself, ".toList ++ quotedName target)
        return false
      | .error fault =>
        complain program ("cannot move ".toList ++ quotedName source ++ " to ".toList
          ++ quotedName target ++ ':' :: ' ' :: fault.wording.toList)
        return false

def mv : Tool := fun _ call => do
  let program := call.program
  let arguments ← argumentsOf program 1 transferForms false call.arguments
  transferAll ⟨program, arguments, moveNode arguments program⟩ false

def linkNode (arguments : Arguments) (program : String) (source target : List Char) :
    Action Bool := do
  let isSymbolic := arguments.has 's'
  let kind := if isSymbolic then "symbolic link" else "hard link"
  let node ← if isSymbolic then pure (.ok (.link (textOf source))) else nodeOf false source
  match node with
  | .error fault =>
    complainDoing program "failed to access" source fault
    return false
  | .ok (.folder _) =>
    complain program (source ++ ": hard link not allowed for directory".toList)
    return false
  | .ok node =>
    if arguments.has 'f' then
      let _ ← attempt fun machine => do
        let place ← machine.world.resolve false (textOf target)
        match machine.root.at? place with
        | some (.folder _) => return machine
        | _ => return machine.eraseNode place
    match ← makeNode target node with
    | .ok () =>
      if arguments.has 'v' then
        put program (quotedName target ++ (if isSymbolic then " -> " else " => ").toList
          ++ quotedName source ++ ['\n'])
      return true
    | .error fault =>
      let start := "failed to create ".toList ++ kind.toList ++ ' ' :: quotedName target
      complain program (start ++ (if isSymbolic || fault = .present then []
        else " => ".toList ++ quotedName source) ++ ':' :: ' ' :: fault.wording.toList)
      return false

def ln : Tool := fun _ call => do
  let program := call.program
  let arguments ← argumentsOf program 1 transferForms false call.arguments
  transferAll ⟨program, arguments, linkNode arguments program⟩ true

end Findings.Simulation.Tool
