import Findings.Simulation.Shell.Condition
import Findings.Simulation.Shell.Field
import Findings.Simulation.Shell.Format
import Findings.Simulation.Shell.State
import Findings.Simulation.Shell.Token
import Findings.Simulation.Order

/-!
Contract: the parts of the shell that run no other command and know no process
but their own.

Owns:
- options in front of operands;
- what each of these parts does to the shell and its process, with the wording
  of faults.

Does not own: parts of the shell that run commands or control other processes, and
programs.
-/

namespace Findings.Simulation.Shell

/-- A part of the shell, given the words behind its name. -/
abbrev Builtin := List (List Char) → Script Unit

/-! ## Words -/

mutual

/-- A text behind a single quote, with the quote behind it; single quotes of its
own stand between double ones. -/
def singleText : List Char → List Char
  | [] => ['\'']
  | '\'' :: rest => '\'' :: '"' :: '\'' :: doubleText rest
  | c :: rest => c :: singleText rest

/-- A text behind a double quote in front of which there are single quotes. -/
def doubleText : List Char → List Char
  | [] => ['"']
  | '\'' :: rest => '\'' :: doubleText rest
  | c :: rest => '"' :: '\'' :: c :: singleText rest

end

def quotedText (text : List Char) : List Char :=
  '\'' :: singleText text

def numberOperand (word : List Char) : Script Nat := do
  match count? word with
  | some number => return number
  | none => Script.failOf ("Illegal number: ".toList ++ word) 2

/-- The options in front of operands.  The letters of those that are given
something are followed by a colon. -/
def optionsOf (allowed : List Char) :
    List (List Char) → Script (List (Char × List Char) × List (List Char))
  | [] => return ([], [])
  | ['-'] :: rest => return ([], ['-'] :: rest)
  | ['-', '-'] :: rest => return ([], rest)
  | ('-' :: letters) :: rest => letterOptions letters rest
  | rest => return ([], rest)
where
  /-- The options of the letters of one word, and those of the words behind
  it. -/
  letterOptions :
      List Char → List (List Char) → Script (List (Char × List Char) × List (List Char))
    | [], rest => optionsOf allowed rest
    | letter :: letters, rest => do
      let place := allowed.dropWhile (· ≠ letter)
      if place.isEmpty || letter = ':' then
        Script.failOf ("Illegal option -".toList ++ [letter]) 2
      else if (place.drop 1).head? = some ':' then
        match letters, rest with
        | [], [] => Script.failOf ("No arg for -".toList ++ letter :: " option".toList) 2
        | [], given :: rest => do
          let (options, rest) ← optionsOf allowed rest
          return ((letter, given) :: options, rest)
        | given, rest => do
          let (options, rest) ← optionsOf allowed rest
          return ((letter, given) :: options, rest)
      else
        let (options, rest) ← letterOptions letters rest
        return ((letter, []) :: options, rest)

/-- The operands of a part of the shell that has no options. -/
def operandsOf (words : List (List Char)) : Script (List (List Char)) := do
  return (← optionsOf [] words).2

def lastOption? (options : List (Char × List Char)) : Option Char :=
  options.getLast?.map Prod.fst

/-! ## Output -/

def echo : Builtin := fun words => do
  Script.setStatus 0
  Script.put (echoText words)

def numberFaultWording : NumberFault → List Char
  | .noNumber => "expected numeric value".toList
  | .notWhole => "not completely converted".toList
  | .outOfRange => "Numerical result out of range".toList

def printFormat : Builtin := fun words => do
  match ← operandsOf words with
  | [] => Script.fail "usage: printf format [arg ...]"
  | format :: arguments =>
    let state := formatted format arguments
    for (argument, fault) in state.faults do
      Script.warnOf (argument ++ ':' :: ' ' :: numberFaultWording fault)
    Script.setStatus (if state.faults.isEmpty then 0 else 1)
    match state.progress with
    | .failed wording =>
      Script.setStatus 2
      Script.warnOf wording
      Script.put state.printed.reverse
      throw .failed
    | _ => Script.put state.printed.reverse

def testCondition : Builtin := fun words => do
  match Condition.evaluate (← Script.world) words with
  | .ok truth => Script.succeed truth
  | .error wording => Script.failOf wording 2

/-- Sets the status to the truth of a condition in front of a bracket. -/
def testBracket : Builtin := fun words => do
  if words.getLast? = some [']'] then testCondition words.dropLast
  else Script.fail "missing ]"

/-! ## Folders -/

/-- The path that a path leads to from a folder, without steps back and steps to
the same place. -/
def logicalPath (folder path : List Char) : List Char :=
  let isTop := path.head? = some '/'
  let lead := if path.take 2 = ['/', '/'] && (path.drop 2).head? ≠ some '/' then ['/', '/'] else ['/']
  let start := if isTop then [] else (splitSlashes folder).filter (!·.isEmpty)
  let steps := ((splitSlashes path).filter (!·.isEmpty)).foldl
    (fun (steps : List (List Char)) step =>
      if step = ['.'] then steps
      else if step = ['.', '.'] then steps.dropLast
      else steps ++ [step])
    start
  (if isTop then lead else ['/']) ++ List.intercalate ['/'] steps

def setExported (name : String) (value : List Char) : Script Unit := do
  Script.setVariable name.toList value
  modify fun shell =>
    match shell.binding? name.toList with
    | some binding => shell.bind { binding with isExported := true }
    | none => shell

/-- The path of the folder of the process without links. -/
def physicalFolder : Script (List Char) :=
  Script.observe fun machine =>
    octetsOf (locationPath ((machine.self?.map Process.folder).getD []))

/-- Goes to a path, and says whether that could be done. -/
def enterFolder (isPhysical : Bool) (path : List Char) : Script Bool := do
  let shell ← get
  let target := if isPhysical then path else logicalPath shell.folder path
  let world ← Script.world
  match world.resolve true (textOf target) with
  | .error _ => return false
  | .ok location =>
    match world.root.at? location with
    | some (.folder _) =>
      Action.changeSelf fun process => { process with folder := location }
      setExported "OLDPWD" shell.folder
      let folder ← if isPhysical then physicalFolder else pure target
      modify fun shell =>
        { shell with
          folder := folder
          found := shell.found.map fun program => { program with isStale := true } }
      setExported "PWD" folder
      return true
    | _ => return false

/-- The folders in which a relative path is looked for, with whether they are
named. -/
def searchFolders (list : List Char) : List (List Char) :=
  match list with
  | [] => []
  | list => splitColons list
where
  /-- The parts of a text between colons. -/
  splitColons : List Char → List (List Char)
    | [] => [[]]
    | c :: rest =>
      if c = ':' then
        [] :: splitColons rest
      else
        match splitColons rest with
        | part :: more => (c :: part) :: more
        | [] => [[c]]

def pathInside (folder path : List Char) : List Char :=
  if folder.isEmpty then path else folder ++ '/' :: path

def changeFolder : Builtin := fun words => do
  let (options, operands) ← optionsOf ['L', 'P'] words
  let isPhysical := lastOption? options = some 'P'
  let shell ← get
  let (target, prints) := match operands with
    | [] => (shell.valueOf "HOME", false)
    | ['-'] :: _ => (shell.valueOf "OLDPWD", true)
    | target :: _ => (target, false)
  let firstStep := (splitSlashes target).headD []
  let isDirect :=
    target.head? = some '/' || firstStep = ['.'] || firstStep = ['.', '.']
  let target := if target.isEmpty then ['.'] else target
  let world ← Script.world
  let found :=
    if isDirect then none
    else (searchFolders (shell.valueOf "CDPATH")).find? fun folder =>
      world.isFolder (textOf (pathInside folder target))
  let (path, prints) := match found with
    | some folder => (pathInside folder target, prints || !folder.isEmpty)
    | none => (target, prints)
  if ← enterFolder isPhysical path then
    Script.setStatus 0
    if prints then Script.put ((← get).folder ++ ['\n'])
  else
    Script.failOf ("can't cd to ".toList ++ target) 2

def printFolder : Builtin := fun words => do
  let (options, _) ← optionsOf ['L', 'P'] words
  Script.setStatus 0
  let folder ← if lastOption? options = some 'P' then physicalFolder else pure (← get).folder
  Script.put (folder ++ ['\n'])

/-! ## Reading -/

structure LineDraft where
  atoms : List Atom
  isEscaped : Bool

/-- Reads octets up to the end of a line, and says whether it is there. -/
def readLineAtoms (isRaw : Bool) : LineDraft → List Char → LineDraft × Bool
  | draft, [] => (draft, false)
  | draft, c :: rest =>
    if c = '\x00' then
      readLineAtoms isRaw draft rest
    else if draft.isEscaped then
      let atoms :=
        if c = '\n' then .seam false :: draft.atoms
        else .seam false :: .char c true :: draft.atoms
      readLineAtoms isRaw ⟨atoms, false⟩ rest
    else if c = '\\' && !isRaw then
      readLineAtoms isRaw { draft with isEscaped := true } rest
    else if c = '\n' then
      (draft, true)
    else
      readLineAtoms isRaw { draft with atoms := .loose c true :: draft.atoms } rest

/-- Reads the octets that are there up to the end of a line; a signal that was
caught ends the waiting. -/
def readLineOctets : Action (Except SystemFault (List Char)) :=
  Action.perform fun machine =>
    match machine.readUpTo (· = '\n') 0 Action.blockSize with
    | .blocked time =>
      if (machine.self?.map fun process => !process.pending.isEmpty).getD false then
        .done (.ok []) machine
      else
        .blocked time
    | done => done

def assignFields : List (List Char) → List (List PatternChar) → Script Unit
  | [], _ => return
  | name :: names, fields => do
    if !isName name then
      Script.failOf (name ++ ": bad variable name".toList) 2
    Script.setVariable name ((fields.headD []).map Prod.fst)
    assignFields names fields.tail

def readLine : Builtin := fun words => do
  let (options, names) ← optionsOf ['p', ':', 'r'] words
  if names.isEmpty then
    Script.fail "arg count"
  let isRaw := options.any (·.1 = 'r')
  let start : LineDraft := ⟨[.seam false], false⟩
  let (draft, isWhole) ← Action.repeated
    (fun draft => do
      match ← readLineOctets with
      | .error _ | .ok [] => return .inr (draft, false)
      | .ok octets =>
        let (draft, isWhole) := readLineAtoms isRaw draft octets
        return if isWhole then .inr (draft, true) else .inl draft)
    Action.maxRounds start
  Script.succeed isWhole
  let fields := fieldsOf (← get).separators (some names.length) draft.atoms.reverse
  assignFields names fields

/-! ## Variables -/

/-- The name and the value of a word with an equals sign. -/
def splitAssignment (word : List Char) : List Char × Option (List Char) :=
  let name := word.takeWhile (· ≠ '=')
  (name, if name.length < word.length then some (word.drop (name.length + 1)) else none)

/-- Changes the marks of a variable, and its value if there is one. -/
def markVariable (mark : Binding → Binding) (word : List Char) : Script Unit := do
  let (name, value) := splitAssignment word
  if !isName name then
    Script.failOf (name ++ ": bad variable name".toList) 2
  match value with
  | some value => Script.setVariable name value
  | none => pure ()
  modify fun shell => shell.bind (mark ((shell.binding? name).getD ⟨name, none, false, false⟩))

/-- The variables that have something in common, in order, each on a line of
its own. -/
def variableLines (before : List Char) (isShown : Binding → Bool) : Script (List Char) := do
  let shown := ((← get).bindings.filter isShown).mergeSort fun left right =>
    Text.notAfter left.name right.name
  return shown.flatMap fun binding =>
    let value := match binding.value with
      | some value => '=' :: quotedText value
      | none => []
    before ++ binding.name ++ value ++ ['\n']

/-- Marks variables, or prints those that are marked. -/
def declare (name : String) (isMarked : Binding → Bool) (mark : Binding → Binding) : Builtin :=
  fun words => do
    let (options, operands) ← optionsOf ['p'] words
    Script.setStatus 0
    if options.isEmpty && !operands.isEmpty then
      operands.forM (markVariable mark)
    else
      Script.put (← variableLines (name.toList ++ [' ']) isMarked)

/-- Makes a variable local, and gives it a value if there is one. -/
def makeLocal (isExported : Bool) (word : List Char) : Script Unit := do
  let (name, value) := splitAssignment word
  if word = ['-'] then
    modify fun shell => shell.save (.options shell.options)
    return
  if !isName name then
    Script.failOf (name ++ ": bad variable name".toList) 2
  modify (·.saveBinding name)
  match value with
  | some value => Script.setVariable name value
  | none => pure ()
  if isExported then
    modify fun shell =>
      shell.bind { (shell.binding? name).getD ⟨name, none, false, false⟩ with isExported := true }

def localVariables : Builtin := fun words => do
  if (← get).frames.isEmpty then
    Script.fail "not in a function"
  Script.setStatus 0
  (← operandsOf words).forM (makeLocal false)

def unset : Builtin := fun words => do
  let (options, operands) ← optionsOf ['v', 'f'] words
  Script.setStatus 0
  operands.forM fun name => do
    if lastOption? options = some 'f' then
      modify fun shell =>
        { shell with functions := shell.functions.filter (·.name ≠ name) }
    else
      if !isName name then
        Script.failOf (name ++ ": bad variable name".toList) 2
      match (← get).binding? name with
      | some ⟨_, _, _, true⟩ => Script.failOf (name ++ ": is read only".toList) 2
      | _ =>
        modify fun shell =>
          let shell := if name = "PATH".toList then { shell with found := [] } else shell
          shell.unbind name

def shiftParameters : Builtin := fun words => do
  let count ← match words with
    | word :: _ => numberOperand word
    | [] => pure 1
  if (← get).parameters.length < count then
    Script.fail "can't shift that many"
  modify fun shell =>
    { shell with
      parameters := shell.parameters.drop count
      optionPlace := (1, 0)
      status := 0 }

/-! ## Options of the shell -/

def shellOptions : List (String × Option Char) := [
  ("errexit", some 'e'), ("noglob", some 'f'), ("ignoreeof", some 'I'),
  ("interactive", some 'i'), ("monitor", some 'm'), ("noexec", some 'n'), ("stdin", some 's'),
  ("xtrace", some 'x'), ("verbose", some 'v'), ("vi", some 'V'), ("emacs", some 'E'),
  ("noclobber", some 'C'), ("allexport", some 'a'), ("notify", some 'b'),
  ("nounset", some 'u'), ("privileged", some 'p'), ("nolog", none), ("debug", none)]

/-- The letters of the options that are set, as they are shown. -/
def State.optionLetters (shell : State) : List Char :=
  (shellOptions.reverse.filterMap Prod.snd).filter shell.options.contains

def setOption (letter : Char) (value : Bool) : Script Unit := do
  if !(shellOptions.filterMap Prod.snd).contains letter then
    Script.failOf ("Illegal option -".toList ++ [letter]) 2
  if letter = 'm' && value then
    Script.warn "can't access tty; job control turned off"
  else
    let others := (← get).options.filter fun option =>
      option != letter && !(value && letter == 'V' && option == 'E')
        && !(value && letter == 'E' && option == 'V')
    modify fun shell => { shell with options := if value then letter :: others else others }

/-- Sets an option of a name, or takes it back; without a name the options are
printed. -/
def setNamedOption (name : Option (List Char)) (value : Bool) : Script Unit := do
  let shell ← get
  let isSet (letter : Option Char) : Bool := letter.any shell.options.contains
  match name with
  | some name =>
    match shellOptions.find? (·.1.toList = name) with
    | some (_, some letter) => setOption letter value
    | some (_, none) => return
    | none =>
      Script.failOf ("Illegal option ".toList ++ (if value then '-' else '+') :: 'o' :: ' ' :: name)
        2
  | none =>
    if value then
      Script.put ("Current option settings\n".toList ++ shellOptions.flatMap fun (name, letter) =>
        name.toList ++ List.replicate (16 - name.length) ' '
          ++ (if isSet letter then "on\n" else "off\n").toList)
    else
      Script.put (shellOptions.flatMap fun (name, letter) =>
        (if isSet letter then "set -o " else "set +o ").toList ++ name.toList ++ ['\n'])

/-- Sets the options in front of operands, and gives the operands if there are
any.  On a command line the text of a script may be asked for. -/
def setOptions (isCommandLine : Bool) :
    List (List Char) → Script (Option (List (List Char)) × Bool)
  | [] => return (none, false)
  | ['-'] :: rest => do
    if !isCommandLine then
      setOption 'x' false
      setOption 'v' false
    return (if rest.isEmpty then none else some rest, false)
  | ['-', '-'] :: rest =>
    return (if rest.isEmpty && isCommandLine then none else some rest, false)
  | (sign :: letters) :: rest =>
    if sign = '-' || sign = '+' then setLetters (sign == '-') false letters rest
    else return (some ((sign :: letters) :: rest), false)
  | rest => return (some rest, false)
where
  /-- Sets the options of the letters of one word, and those of the words behind
  it. -/
  setLetters (value asksText : Bool) :
      List Char → List (List Char) → Script (Option (List (List Char)) × Bool)
    | [], rest => do
      let (operands, asksMore) ← setOptions isCommandLine rest
      return (operands, asksText || asksMore)
    | 'o' :: letters, rest => do
      setNamedOption rest.head? value
      match rest with
      | _ :: rest => setLetters value asksText letters rest
      | [] => setLetters value asksText letters []
    | letter :: letters, rest => do
      if isCommandLine && letter = 'c' then
        setLetters value true letters rest
      else if isCommandLine && letter = 'l' then
        setLetters value asksText letters rest
      else
        setOption letter value
        setLetters value asksText letters rest

def setParameters (parameters : List (List Char)) : Script Unit :=
  modify fun shell => { shell with parameters := parameters, optionPlace := (1, 0) }

/-- Sets options and parameters, or prints the variables. -/
def changeShell : Builtin := fun words => do
  Script.setStatus 0
  if words.isEmpty then
    Script.put (← variableLines [] fun binding => binding.value.isSome)
  else
    match (← setOptions false words).1 with
    | some parameters => setParameters parameters
    | none => return

structure OptionSearch where
  letter : Char
  value : Option (List Char)
  complaint : Option (List Char)
  place : Nat × Nat
  isOver : Bool

def searchOption (allowed : List Char) (words : List (List Char)) (place : Nat × Nat) :
    OptionSearch :=
  let (index, offset) := place
  let isQuiet := allowed.head? = some ':'
  let last := (if index ≤ 1 then none else words[index - 2]?).getD []
  let rest := if offset = 0 || last.length < offset then [] else last.drop offset
  let exhausted (index : Nat) : OptionSearch := ⟨'?', none, none, (index, 0), true⟩
  let found (letter : Char) (rest : List Char) (index size : Nat) : OptionSearch :=
    let place := (index, size - rest.length)
    let entry := (if letter = ':' then [] else allowed).dropWhile (· ≠ letter)
    if entry.isEmpty then
      if isQuiet then ⟨'?', some [letter], none, place, false⟩
      else ⟨'?', none, some ("Illegal option -".toList ++ [letter]), place, false⟩
    else if (entry.drop 1).head? ≠ some ':' then
      ⟨letter, some [], none, place, false⟩
    else if !rest.isEmpty then
      ⟨letter, some rest, none, (index, 0), false⟩
    else
      match words[index - 1]? with
      | some value => ⟨letter, some value, none, (index + 1, 0), false⟩
      | none =>
        if isQuiet then ⟨':', some [letter], none, place, false⟩
        else ⟨'?', none, some ("No arg for -".toList ++ letter :: " option".toList), place, false⟩
  match rest with
  | letter :: rest => found letter rest index last.length
  | [] =>
    match words[index - 1]? with
    | some ['-', '-'] => exhausted (index + 1)
    | some ('-' :: letter :: rest) => found letter rest (index + 1) (rest.length + 2)
    | _ => exhausted index

/-- Looks for the next option among the parameters, or among other words. -/
def nextOption : Builtin := fun words => do
  match ← operandsOf words with
  | allowed :: name :: others =>
    let shell ← get
    let among := if others.isEmpty then shell.parameters else others
    let place := if among.length + 1 < shell.optionPlace.1 then (1, 0) else shell.optionPlace
    let search := searchOption allowed among place
    match search.complaint with
    | some wording => Script.putError wording
    | none => pure ()
    if !search.isOver then
      match search.value with
      | some value => Script.setVariable "OPTARG".toList value
      | none => modify (·.unbind "OPTARG".toList)
    Script.setVariable "OPTIND".toList (digitsOf search.place.1)
    if !isName name then
      Script.failOf (name ++ ": bad variable name".toList) 2
    Script.setVariable name [search.letter]
    modify fun shell => { shell with optionPlace := search.place }
    Script.succeed (!search.isOver)
  | _ => Script.fail "Usage: getopts optstring var [arg...]"

/-! ## Signals -/

/-- The signal of a number or a name, from a least one on. -/
def signalOf? (least : Nat) (word : List Char) : Option Nat :=
  if !word.isEmpty && word.all Char.isDigit then
    let number := digitsValue 10 word
    if number ≤ lastSignal then some number else none
  else
    (signalOfName? (String.ofList (word.map Char.toUpper))).bind fun signal =>
      if least ≤ signal then some signal else none

def setTraps (action : Option (List Char)) : List (List Char) → Script Unit
  | [] => return
  | word :: more => do
    match signalOf? 0 word with
    | none =>
      Script.putError ("trap: ".toList ++ word ++ ": bad trap".toList)
      Script.setStatus 1
    | some signal =>
      let shell ← get
      let others := shell.traps.filter (·.1 ≠ signal)
      let traps := match action with
        | some action => (signal, action) :: others
        | none => others
      modify fun shell => { shell with traps := traps }
      if signal ≠ 0 && !shell.fixedSignals.contains signal then
        let disposition := match action with
          | none => Disposition.default
          | some [] => .ignore
          | some _ => .catch
        Action.changeSelf (·.dispose signal disposition)
      setTraps action more

def trap : Builtin := fun words => do
  Script.setStatus 0
  match ← operandsOf words with
  | [] =>
    let traps := (← get).traps.mergeSort fun left right => left.1 ≤ right.1
    Script.put (traps.flatMap fun (signal, action) =>
      "trap -- ".toList ++ quotedText action ++ ' ' :: (signalName signal).toList ++ ['\n'])
  | [word] => setTraps none [word]
  | action :: words =>
    let isSignal := !action.isEmpty && action.all Char.isDigit && (signalOf? 0 action).isSome
    if isSignal then setTraps none (action :: words)
    else setTraps (if action = ['-'] then none else some action) words

/-! ## Other parts -/

def leaveLoops (again : Bool) : Builtin := fun words => do
  let loops ← match words with
    | [] => pure 1
    | word :: _ => do
      let loops ← numberOperand word
      if loops = 0 then Script.failOf ("Illegal number: ".toList ++ word) 2 else pure loops
  Script.setStatus 0
  let loops := min loops (← get).loops
  if loops ≠ 0 then
    throw (.leaving loops again)

def returnFrom : Builtin := fun words => do
  match words with
  | [] => throw (.returned false)
  | word :: _ =>
    Script.setStatus (← numberOperand word)
    throw (.returned true)

def exitShell : Builtin := fun words => do
  match words with
  | [] => modify fun shell => { shell with status := shell.keptStatus.getD shell.status }
  | word :: _ => Script.setStatus (← numberOperand word)
  throw .ended

/-- The permissions of a mask as letters for one kind of user. -/
def maskLetters (kind : Char) (bits : Nat) : List Char :=
  let allowed := 7 - bits % 8
  kind :: '=' :: ((if allowed / 4 % 2 = 1 then ['r'] else [])
    ++ (if allowed / 2 % 2 = 1 then ['w'] else []) ++ (if allowed % 2 = 1 then ['x'] else []))

/-- The bits that are allowed by a clause of letters, given those that are
allowed before it. -/
def applyClause (clause : List Char) (allowed : Nat) : Option Nat :=
  let users := clause.takeWhile (['u', 'g', 'o', 'a'].contains ·)
  let shifts := (if users.isEmpty then ['a'] else users).flatMap fun user =>
    match user with
    | 'u' => [64]
    | 'g' => [8]
    | 'o' => [1]
    | _ => [64, 8, 1]
  match clause.drop users.length with
  | operator :: letters =>
    let bits := letters.foldlM
      (fun bits letter =>
        match letter with
        | 'r' => some (bits ||| 4)
        | 'w' => some (bits ||| 2)
        | 'x' => some (bits ||| 1)
        | _ => none)
      0
    bits.bind fun bits =>
      let chosen := shifts.foldl (fun all shift => all ||| bits * shift) 0
      let whole := shifts.foldl (fun all shift => all ||| 7 * shift) 0
      match operator with
      | '+' => some (allowed ||| chosen)
      | '-' => some (allowed - (allowed &&& chosen))
      | '=' => some ((allowed - (allowed &&& whole)) ||| chosen)
      | _ => none
  | [] => none

def splitCommas : List Char → List (List Char)
  | [] => [[]]
  | ',' :: rest => [] :: splitCommas rest
  | c :: rest =>
    match splitCommas rest with
    | part :: more => (c :: part) :: more
    | [] => [[c]]

/-- Sets or prints what is taken from the permissions of new files. -/
def permissionMask : Builtin := fun words => do
  let (options, operands) ← optionsOf ['S'] words
  Script.setStatus 0
  let mask := (← get).mask
  match operands with
  | [] =>
    if options.isEmpty then
      let digits := Nat.toDigits 8 mask
      Script.put (List.replicate (4 - digits.length) '0' ++ digits ++ ['\n'])
    else
      Script.put (maskLetters 'u' (mask / 64) ++ ',' :: maskLetters 'g' (mask / 8)
        ++ ',' :: maskLetters 'o' mask ++ ['\n'])
  | word :: _ =>
    if word.head?.any Char.isDigit then
      if word.all isOctal then
        modify fun shell => { shell with mask := digitsValue 8 word % 512 }
      else
        Script.failOf ("Illegal number: ".toList ++ word) 2
    else
      match (splitCommas word).foldlM (fun allowed clause => applyClause clause allowed)
          (511 - mask) with
      | some allowed => modify fun shell => { shell with mask := 511 - allowed }
      | none => Script.failOf ("Illegal mode: ".toList ++ word) 2

def defineAlias : Builtin := fun words => do
  Script.setStatus 0
  let line (entry : List Char × List Char) : List Char :=
    entry.1 ++ '=' :: quotedText entry.2 ++ ['\n']
  if words.isEmpty then
    let entries := (← get).aliases.mergeSort fun left right => Text.notAfter left.1 right.1
    Script.put (entries.flatMap line)
  words.forM fun word => do
    let value := (word.drop 1).dropWhile (· ≠ '=')
    if value.isEmpty then
      match (← get).aliases.find? (·.1 = word) with
      | some entry => Script.put (line entry)
      | none =>
        Script.putError ("alias: ".toList ++ word ++ " not found".toList)
        Script.setStatus 1
    else
      let name := word.take (word.length - value.length)
      modify fun shell =>
        { shell with aliases := (name, value.drop 1) :: shell.aliases.filter (·.1 ≠ name) }

def unalias : Builtin := fun words => do
  let (options, names) ← optionsOf ['a'] words
  Script.setStatus 0
  if !options.isEmpty then
    modify fun shell => { shell with aliases := [] }
  names.forM fun name => do
    if (← get).aliases.any (·.1 = name) then
      modify fun shell => { shell with aliases := shell.aliases.filter (·.1 ≠ name) }
    else
      Script.putError ("unalias: ".toList ++ name ++ " not found".toList)
      Script.setStatus 1

def processLimits : List (Char × String × String) := [
  ('t', "time(seconds)", "unlimited"), ('f', "file(blocks)", "unlimited"),
  ('d', "data(kbytes)", "unlimited"), ('s', "stack(kbytes)", "8192"),
  ('c', "coredump(blocks)", "0"), ('m', "memory(kbytes)", "unlimited"),
  ('l', "locked memory(kbytes)", "8192"), ('p', "process", "unlimited"),
  ('n', "nofiles", "1048576"), ('v', "vmemory(kbytes)", "unlimited"),
  ('w', "locks", "unlimited"), ('r', "rtprio", "0")]

def limits : Builtin := fun words => do
  let letters := 'H' :: 'S' :: 'a' :: processLimits.map Prod.fst
  let (options, operands) ← optionsOf letters words
  Script.setStatus 0
  if options.any (·.1 = 'a') then
    Script.put (processLimits.flatMap fun (_, name, value) =>
      name.toList ++ List.replicate (20 - name.length) ' ' ++ ' ' :: value.toList ++ ['\n'])
  else if operands.isEmpty then
    let letter := ((options.map Prod.fst).filter fun letter => letter ≠ 'H' && letter ≠ 'S').getLastD
      'f'
    match processLimits.lookup letter with
    | some (_, value) => Script.put (value.toList ++ ['\n'])
    | none => return

def times : Builtin := fun _ => do
  Script.setStatus 0
  Script.put "0m0.000000s 0m0.000000s\n0m0.000000s 0m0.000000s\n".toList

/-- The parts of the shell that run no other command and know no process but
their own. -/
def plainBuiltins : List (String × Builtin) := [
  (":", fun _ => Script.setStatus 0),
  ("true", fun _ => Script.setStatus 0),
  ("false", fun _ => Script.setStatus 1),
  ("[", testBracket),
  ("alias", defineAlias),
  ("break", leaveLoops false),
  ("cd", changeFolder),
  ("chdir", changeFolder),
  ("continue", leaveLoops true),
  ("echo", echo),
  ("exit", exitShell),
  ("export", declare "export" Binding.isExported fun binding => { binding with isExported := true }),
  ("getopts", nextOption),
  ("local", localVariables),
  ("printf", printFormat),
  ("pwd", printFolder),
  ("read", readLine),
  ("readonly",
    declare "readonly" Binding.isReadOnly fun binding => { binding with isReadOnly := true }),
  ("return", returnFrom),
  ("set", changeShell),
  ("shift", shiftParameters),
  ("test", testCondition),
  ("times", times),
  ("trap", trap),
  ("ulimit", limits),
  ("umask", permissionMask),
  ("unalias", unalias),
  ("unset", unset)]

end Findings.Simulation.Shell
