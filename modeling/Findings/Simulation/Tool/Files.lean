import Findings.Simulation.Tool.Copy

/-!
Contract: programs that make and remove files and folders.

Owns:
- finding what paths lead to, and changing the tree of files, in steps that
  others can share;
- making folders and files, and removing them, alone or with all that is in
  them;
- permissions, as far as files can be run or not.
-/

namespace Findings.Simulation.Tool

/-! ## Files -/

def attempt (act : Machine → Except SystemFault Machine) : Action (Except SystemFault Unit) :=
  Action.perform fun machine =>
    match act machine with
    | .ok machine => .done (.ok ()) machine
    | .error fault => .done (.error fault) machine

def world : Action World :=
  Action.observe Machine.world

/-- The place of a path, where the last link is followed or not. -/
def placeOf (follow : Bool) (path : List Char) : Action (Except SystemFault (List String)) := do
  return (← world).resolve follow (textOf path)

/-- What a path leads to, where the last link is followed or not. -/
def nodeOf (follow : Bool) (path : List Char) : Action (Except SystemFault Node) := do
  let world ← world
  return (world.resolve follow (textOf path)).bind fun place =>
    match world.root.at? place with
    | some node => .ok node
    | none => .error .missing

def isFolder (path : List Char) : Action Bool := do
  return (← world).isFolder (textOf path)

def withoutEndSlashes (path : List Char) : List Char :=
  let short := (path.reverse.dropWhile (· = '/')).reverse
  if short.isEmpty then path.take 1 else short

def lastPart (path : List Char) : List Char :=
  let short := withoutEndSlashes path
  if short = ['/'] then short else (short.reverse.takeWhile (· ≠ '/')).reverse

def inside (folder name : List Char) : List Char :=
  if folder.getLast? = some '/' then folder ++ name else folder ++ '/' :: name

/-- Complains that something could not be done to an operand. -/
def complainDoing (program doing : String) (operand : List Char) (fault : SystemFault) :
    Action Unit :=
  complain program (doing.toList ++ ' ' :: quotedName operand ++ ':' :: ' ' :: fault.wording.toList)

/-- Goes through operands, of which there has to be one, and gives the worst
status. -/
def eachOperand (program missing : String) (arguments : Arguments)
    (use : List Char → Action Bool) : Action Nat := do
  if arguments.operands.isEmpty then
    refuse program 1 missing.toList
  let mut status := 0
  for operand in arguments.operands do
    if !(← use operand) then
      status := 1
  return status

def makeNode (path : List Char) (node : Node) : Action (Except SystemFault Unit) :=
  attempt fun machine => do
    let world := machine.world
    match world.resolve false (textOf path) with
    | .ok _ => throw .present
    | .error .missing =>
      let place ← world.resolveNew (textOf path)
      return machine.putNode place node
    | .error fault => throw fault

/-! ## Making and removing -/

/-- The folders on the way to a path, and the path. -/
def pathsTo (path : List Char) : List (List Char) :=
  let parts := (splitSlashes path).filter (!·.isEmpty)
  (List.range parts.length).map fun count =>
    (if path.head? = some '/' then ['/'] else [])
      ++ List.intercalate ['/'] (parts.take (count + 1))

def mkdir : Tool := fun _ call => do
  let program := call.program
  let forms : List OptionForm :=
    [⟨'m', "mode", .always⟩, ⟨'p', "parents", .never⟩, ⟨'v', "verbose", .never⟩]
  let arguments ← argumentsOf program 1 forms false call.arguments
  let tell (path : List Char) : Action Unit := do
    if arguments.has 'v' then
      put program (program.toList ++ ": created directory ".toList ++ quotedName path ++ ['\n'])
  eachOperand program "missing operand" arguments fun operand => do
    if arguments.has 'p' then
      let rec makeAll : List (List Char) → Action Bool
        | [] => return true
        | path :: more => do
          match ← makeNode path (.folder []) with
          | .ok () =>
            tell path
            makeAll more
          | .error fault =>
            if fault = .present && (← isFolder path) then
              makeAll more
            else
              let wording := if fault = .present && !more.isEmpty then .notFolder else fault
              complainDoing program "cannot create directory" path wording
              return false
      makeAll (pathsTo operand)
    else
      match ← makeNode (withoutEndSlashes operand) (.folder []) with
      | .ok () =>
        tell operand
        return true
      | .error fault =>
        complainDoing program "cannot create directory" operand fault
        return false

def removeFolder (path : List Char) : Action (Except SystemFault Unit) :=
  attempt fun machine => do
    if (splitSlashes (withoutEndSlashes path)).getLast? = some ['.'] then
      throw .invalid
    let place ← machine.world.resolve false (textOf path)
    match machine.root.at? place with
    | some (.folder []) => if place.isEmpty then throw .busy else return machine.eraseNode place
    | some (.folder _) => throw .notEmpty
    | _ => throw .notFolder

def rmdir : Tool := fun _ call => do
  let program := call.program
  let forms : List OptionForm :=
    [⟨'p', "parents", .never⟩, ⟨'v', "verbose", .never⟩, ⟨'i', "ignore-fail-on-non-empty", .never⟩]
  let arguments ← argumentsOf program 1 forms false call.arguments
  eachOperand program "missing operand" arguments fun operand => do
    let rec removeAll : List (List Char) → Action Bool
      | [] => return true
      | path :: more => do
        if arguments.has 'v' then
          put program (program.toList ++ ": removing directory, ".toList ++ quotedName path ++ ['\n'])
        match ← removeFolder path with
        | .ok () => removeAll more
        | .error fault =>
          if arguments.has 'i' && fault = .notEmpty then
            return true
          else
            complainDoing program
              (if path = operand then "failed to remove" else "failed to remove directory") path
              fault
            return false
    removeAll (if arguments.has 'p' then
        operand :: ((pathsTo operand).reverse.drop 1)
      else [operand])

def touch : Tool := fun _ call => do
  let program := call.program
  let forms : List OptionForm := [
    ⟨'a', "", .never⟩, ⟨'c', "no-create", .never⟩, ⟨'d', "date", .always⟩, ⟨'f', "", .never⟩,
    ⟨'h', "no-dereference", .never⟩, ⟨'m', "", .never⟩, ⟨'r', "reference", .always⟩,
    ⟨'t', "", .always⟩]
  let arguments ← argumentsOf program 1 forms false call.arguments
  eachOperand program "missing file operand" arguments fun operand => do
    let result ← attempt fun machine => do
      match machine.world.find (textOf operand) with
      | .ok _ => return machine
      | .error .missing =>
        if arguments.has 'c' then return machine
        else return (← machine.openPath (textOf operand) .append).2
      | .error fault => throw fault
    match result with
    | .ok () => return true
    | .error fault =>
      complainDoing program
        (if fault = .isFolder then "setting times of" else "cannot touch") operand
        (if fault = .isFolder then .missing else fault)
      return false

def isConfirmed (question : List Char) : Action Bool := do
  let _ ← Action.write 2 question
  match ← Action.perform (Machine.readUpTo (· = '\n') 0 Action.blockSize) with
  | .ok (c :: _) => return c = 'y' || c = 'Y'
  | _ => return false

structure Removal where
  program : String
  isForced : Bool
  asks : Bool
  isDeep : Bool
  takesFolders : Bool
  tells : Bool

/-- Removes what is at a path, and what is below it; the bound is on how deep it
is. -/
def remove (removal : Removal) : Nat → List Char → Action Bool
  | 0, _ => return false
  | bound + 1, path => do
    let fails (fault : SystemFault) : Action Bool := do
      complainDoing removal.program "cannot remove" path fault
      return false
    let erase (kind : String) : Action Bool := do
      let isWanted ←
        if removal.asks then
          isConfirmed (removal.program.toList ++ ": remove ".toList ++ kind.toList ++ ' ' ::
            quotedName path ++ ['?', ' '])
        else pure true
      if isWanted then
        match ← attempt fun machine => do
          let place ← machine.world.resolve false (textOf path)
          return machine.eraseNode place with
        | .ok () =>
          if removal.tells then
            put removal.program ((if kind = "directory" then "removed directory " else "removed ").toList
              ++ quotedName path ++ ['\n'])
          return true
        | .error fault => fails fault
      else
        return true
    match ← nodeOf false path with
    | .error fault =>
      if removal.isForced && (fault = .missing || fault = .notFolder) then return true
      else fails fault
    | .ok (.folder entries) =>
      if !removal.isDeep && !(removal.takesFolders && entries.isEmpty) then
        fails (if removal.takesFolders then .notEmpty else .isFolder)
      else if removal.isDeep && [['.'], ['.', '.']].contains (lastPart path) then
        complain removal.program ("refusing to remove '.' or '..' directory: skipping ".toList
          ++ quotedName path)
        return false
      else
        let mut isWhole := true
        for (name, _) in entries do
          if !(← remove removal bound (inside path (octetsOf name))) then
            isWhole := false
        if isWhole then erase "directory" else return false
    | .ok (.file [] _) => erase "regular empty file"
    | .ok (.file _ _) => erase "regular file"
    | .ok (.link _) => erase "symbolic link"
    | .ok (.device _) => erase "character special file"

def maxDepth : Nat := 4096

/-- Removes files, or folders with all that is in them. -/
def rm : Tool := fun _ call => do
  let program := call.program
  let forms : List OptionForm := [
    ⟨'d', "dir", .never⟩, ⟨'f', "force", .never⟩, ⟨'i', "", .never⟩, ⟨'I', "", .never⟩,
    ⟨'r', "recursive", .never⟩, ⟨'R', "", .never⟩, ⟨'v', "verbose", .never⟩,
    ⟨'P', "preserve-root", .maybe⟩, ⟨'N', "no-preserve-root", .never⟩]
  let arguments ← argumentsOf program 1 forms false call.arguments
  let isForced := arguments.lastOf? ['f', 'i'] = some 'f'
  if arguments.operands.isEmpty && isForced then
    Action.exit 0
  let removal : Removal := {
    program := program
    isForced := isForced
    asks := arguments.lastOf? ['f', 'i'] = some 'i'
    isDeep := arguments.has 'r' || arguments.has 'R'
    takesFolders := arguments.has 'd'
    tells := arguments.has 'v' }
  eachOperand program "missing operand" arguments fun operand => do
    if removal.isDeep && !arguments.has 'N' && (← placeOf true operand).toOption = some [] then
      complain program "it is dangerous to operate recursively on '/'".toList
      complain program "use --no-preserve-root to override this failsafe".toList
      return false
    else
      remove removal maxDepth operand

/-! ## Permissions -/

/-- The bits of those that letters name: everybody, if there is no letter. -/
def whoBits (letters : List Char) : Mode :=
  if letters.isEmpty || letters.contains 'a' then 0o777
  else
    (if letters.contains 'u' then 0o700 else 0) ||| (if letters.contains 'g' then 0o070 else 0)
      ||| (if letters.contains 'o' then 0o007 else 0)

def whatBits (letters : List Char) (mode : Mode) : Mode :=
  (if letters.contains 'r' then 0o444 else 0) ||| (if letters.contains 'w' then 0o222 else 0)
    ||| (if letters.contains 'x' || (letters.contains 'X' && mode.isExecutable) then 0o111 else 0)

/-- The mode of a file once a text is applied to it, or nothing if the text is no
mode. -/
def modeResult (text : List Char) (mode : Mode) : Option Mode :=
  if !text.isEmpty && text.all Char.isDigit then
    let value := text.foldl (fun value c => value * 8 + (c.toNat - '0'.toNat)) 0
    if text.all (fun c => c < '8') && value ≤ 4095 then some (.ofNat 12 value) else none
  else
    (splitCommas text).foldlM
      (fun mode clause =>
        let who := clause.takeWhile fun c => "ugoa".toList.contains c
        match clause.drop who.length with
        | operator :: letters =>
          if !letters.all fun c => "rwxXst".toList.contains c then none
          else
            -- Where nobody is named, only the owner is given leave to write.
            let bits := whatBits letters mode &&& whoBits who
            let bits := if who.isEmpty then bits &&& 0o755 else bits
            match operator with
            | '+' => some (mode ||| bits)
            | '-' => some (mode &&& ~~~bits)
            | '=' => some ((mode &&& ~~~whoBits who) ||| bits)
            | _ => none
        | [] => none)
      mode
where
  /-- The clauses of a text between commas. -/
  splitCommas : List Char → List (List Char)
    | [] => [[]]
    | ',' :: rest => [] :: splitCommas rest
    | c :: rest =>
      match splitCommas rest with
      | part :: more => (c :: part) :: more
      | [] => [[c]]

def chmod : Tool := fun _ call => do
  let program := call.program
  -- A mode that takes something away looks like an option.
  let isMode (word : List Char) : Bool :=
    word.head? = some '-' && word.length ≠ 1 && word.tail.all fun c => "rwxXst".toList.contains c
  let minus := call.arguments.find? isMode
  let words := call.arguments.filter fun word => !isMode word
  let forms : List OptionForm := [
    ⟨'c', "changes", .never⟩, ⟨'f', "silent", .never⟩, ⟨'R', "recursive", .never⟩,
    ⟨'v', "verbose", .never⟩]
  let arguments ← argumentsOf program 1 forms false words
  let (mode, operands) := match minus, arguments.operands with
    | some mode, operands => (some mode, operands)
    | none, mode :: operands => (some mode, operands)
    | none, [] => (none, [])
  match mode, operands with
  | none, _ => refuse program 1 "missing operand".toList
  | some mode, [] => refuse program 1 ("missing operand after ".toList ++ quoted mode)
  | some mode, operands =>
    if (modeResult mode .readable).isNone then
      refuse program 1 ("invalid mode: ".toList ++ quoted mode)
    let rec changed : Node → Node
      | .file content permissions =>
        .file content ((modeResult mode permissions).getD permissions)
      | node => node
    eachOperand program "missing operand" { arguments with operands := operands } fun operand => do
      match ← attempt fun machine => do
        let place ← machine.world.resolve true (textOf operand)
        match machine.root.at? place with
        | some node => return machine.putNode place (changed node)
        | none => throw .missing with
      | .ok () => return true
      | .error fault =>
        complainDoing program "cannot access" operand fault
        return false

end Findings.Simulation.Tool
