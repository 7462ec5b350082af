import Findings.Simulation.Shell.Arithmetic
import Findings.Simulation.Shell.Glob
import Findings.Simulation.Shell.Lookup
import Findings.Simulation.Shell.Parameter
import Findings.Simulation.Shell.Parser
import Findings.Simulation.Shell.Redirection

/-!
Contract: what a shell does with commands.

Owns:
- expanding words, in which commands may run;
- running commands, in this process or in others;
- traps, functions, and the parts of the shell that run other commands;
- reading a script command by command.

The bound is on how deep commands are nested; a script that goes deeper is
ended by a signal.  Loops take time in each round.
-/

namespace Findings.Simulation.Shell

/-! ## Reading scripts -/

/-- A script that is read, with the descriptor that the rest comes from. -/
structure ScriptText where
  reader : Reader
  descriptor : Option Nat

def ScriptText.ofText (text : List Char) : ScriptText :=
  ⟨Reader.ofText text 1, none⟩

/-- The number of octets of a script that are read at once. -/
def scriptBlockSize : Nat := 8192

namespace Script

/-- Writes what was read of a script, if that is asked for. -/
def showRead (before after : Reader) : Script Unit := do
  if (← get).has 'v' then
    let _ ← write 2 (before.rest.take (before.rest.length - after.rest.length))

/-- Reads the next command of a script, which ends where there is none.  If the
text that is there may not be all of it, more is read first. -/
def nextOf : Nat → ScriptText → Script (Option (Option Command) × ScriptText)
  | 0, text => return (none, text)
  | bound + 1, text => do
    let shell ← get
    let reader := { text.reader with fresh := shell.freshDocument, aliases := shell.aliases }
    let more : Script (Option ScriptText) := do
      match text.descriptor with
      | none => return none
      | some descriptor =>
        match ← (Action.read descriptor scriptBlockSize : Action _) with
        | .error _ | .ok [] => return none
        | .ok octets =>
          let rest := text.reader.rest ++ octets.filter (· ≠ '\x00')
          return some { text with reader := { text.reader with rest := rest } }
    match nextCommand reader with
    | .error fault =>
      match ← more with
      | some text => nextOf bound text
      | none =>
        modify fun shell => { shell with line := fault.line, readLine := fault.line }
        fail fault.wording
    | .ok (command, after) =>
      let isOpen :=
        after.rest.isEmpty && (after.last = .endOfFile || !after.documents.isEmpty)
      let longer ← if isOpen then more else pure none
      match longer with
      | some text => nextOf bound text
      | none =>
        if text.descriptor.isSome then
          showRead reader after
        modify fun shell =>
          { shell with
            documents := after.documents ++ shell.documents
            freshDocument := after.fresh
            readLine := after.line }
        let rest : ScriptText := ⟨after, if isOpen then none else text.descriptor⟩
        if command.isNone && after.last = .endOfFile then return (none, rest)
        else return (some command, rest)

def maxBlocks : Nat := 100000

end Script

/-! ## Running -/

structure Mode where
  /-- Whether its status is looked at, so that it may fail. -/
  tested : Bool
  /-- Whether the process ends behind it. -/
  exits : Bool

def maxNesting : Nat := 60000

def maxFunctions : Nat := 1000

/-- The signal that ends a process whose commands are nested too deep. -/
def overflowSignal : Nat := 11

/-- A process that is started beside the script, the first one of which has no
input. -/
def asBackground (isFirst : Bool) (process : Process) : Process :=
  let process := (process.dispose 2 .ignore).dispose 3 .ignore
  if isFirst then process.connect 0 (some (.device .null)) else process

/-- The shell of a process that is started beside the script. -/
def State.asBackground (shell : State) : State :=
  { shell with fixedSignals := 2 :: 3 :: shell.fixedSignals }

/-- The descriptor that the output of a command is read from. -/
def outputDescriptor : Nat := 11

/-- The least descriptor that scripts are read from. -/
def firstScriptDescriptor : Nat := 13

def traceDescriptor : Nat := 12

/-- What is known about the name of a command before all of its words. -/
structure Resolution where
  /-- The words that are expanded. -/
  fields : List (List Char)
  /-- The words that are not. -/
  rest : List Word
  inside? : Option Target
  /-- Whether a fault of the command ends the script. -/
  isSpecial : Bool
  /-- Whether assignments are taken back behind the command. -/
  isLocal : Bool
  /-- Whether operands may be assignments. -/
  takesAssignments : Bool
  skipsFunctions : Bool
  usesStandard : Bool

/-- The parts of the shell whose operands may be assignments. -/
def assigningBuiltins : List String := ["export", "readonly", "local", "alias"]

/-- Whether a word is an option that asks for the standard folders. -/
def asksStandard (word : List Char) : Bool :=
  word.head? = some '-' && word.length ≠ 1 && word.tail.all (· = 'p')

inductive WordPart where
  /-- All parameters, with nothing else between double quotes. -/
  | all
  /-- A piece, and whether anything comes in front of it or behind it. -/
  | piece (piece : Piece) (isFront isWhole : Bool)

/-- The parts of the rest of a word.  Behind a parameter that is kept as it is, even
if it is empty, the word ends with the one inside the braces. -/
def wordParts (isFront : Bool) : Word → List WordPart
  | .mark :: .parameter ['@'] .keep false _ true :: .mark :: rest => .all :: wordParts false rest
  | .parameter name .keep true word quoted :: _ =>
    .piece (.parameter name .keep false [] quoted) isFront word.isEmpty :: wordParts false word
  | piece :: rest => .piece piece isFront rest.isEmpty :: wordParts false rest
  | [] => []

/-- Values the first of which is trimmed at its front, or the last one that can be
trimmed at its end, with nothing behind it. -/
def trimAll (isFront : Bool) (trim : List Char → List Char) : List (List Char) → List (List Char)
  | [] => []
  | value :: rest =>
    if isFront then
      trim value :: rest
    else
      let trimmed := trimAll false trim rest
      if trimmed != rest || trim value == value then value :: trimmed else [trim value]

namespace State

def hasTraps (shell : State) : Bool :=
  shell.traps.any fun trap => !trap.2.isEmpty

def assignmentText (assigned : List Char × List Char) : List Char :=
  assigned.1 ++ '=' :: assigned.2

end State

namespace Script

/-- Ends the process because commands are nested too deep. -/
def overflow {α : Type} : Script α :=
  fun _ => Action.finish (.killed overflowSignal)

def leave {α : Type} : Script α :=
  throw .ended

/-- Repeats something that changes a state until it gives a value. -/
def repeated {σ α : Type} (step : σ → Script (σ ⊕ α)) (state : σ) : Script α :=
  fun shell =>
    Action.repeated
      (fun (state, shell) => do
        match ← step state shell with
        | (.ok (.inl state), shell) => return .inl (state, shell)
        | (.ok (.inr value), shell) => return .inr (.ok value, shell)
        | (.error escape, shell) => return .inr (.error escape, shell))
      Action.maxRounds (state, shell)

/-- The program of a script that gives the status of its process. -/
def program (script : Script Nat) (shell : State) : Program :=
  Action.toProgram do
    let (result, shell) ← script shell
    return result.toOption.getD shell.status

def setLine (line : Nat) : Script Unit :=
  modify fun shell => { shell with line := line }

/-- Runs something under the name of a part of the shell. -/
def named {α : Type} (name : List Char) (script : Script α) : Script α := do
  restoring (fun before shell => { shell with command := before.command })
    (do
      modify fun shell => { shell with command := some name }
      script)

/-- Writes a line of a trace, for which the redirections of the command itself do
not count, if it has any. -/
def putTrace (isHeld : Bool) (line : List Char) : Script Unit := do
  let held ← observe fun machine =>
    ((machine.self?.bind fun process => process.held.head?).bind fun table =>
      table.lookup 2).join
  match if isHeld then held else none with
  | none => let _ ← write 2 line
  | some channel =>
    Action.changeSelf (·.connect traceDescriptor (some channel))
    let _ ← write traceDescriptor line
    Action.changeSelf (·.connect traceDescriptor none)

/-- Opens the text of a script, and gives the descriptor. -/
def openScript (path : List Char) : Script Nat := do
  match ← (Action.openPath (textOf path) .read : Action _) with
  | .error fault => failOpening false path fault
  | .ok channel =>
    let used ← observe fun machine =>
      ((machine.self?.map Process.descriptors).getD []).map Prod.fst
    let descriptor := ((List.range (used.length + 1)).map (· + firstScriptDescriptor)).find?
      fun descriptor => !used.contains descriptor
    let descriptor := descriptor.getD firstScriptDescriptor
    Action.changeSelf (·.connect descriptor (some channel))
    return descriptor

/-- Looks for a script in the folders that programs are looked for in. -/
def findScript (name : List Char) : Script (List Char) := do
  if name.contains '/' then
    return name
  else
    let world ← world
    let paths := ((← get).folders false).map (pathInside · name)
    match paths.find? fun path => world.isFile (textOf path) with
    | some path => return path
    | none => failOf (name ++ ": not found".toList) 2

/-- Gives a parameter a value that it does not have. -/
def assignMissing (name value : List Char) : Script Unit := do
  if isName name then setVariable name value
  else failOf (name ++ ": bad variable name".toList) 2

def failDescriptor {α : Type} : Script α := do
  modify fun shell => { shell with line := shell.readLine }
  fail "Syntax error: Bad fd number"

/-- Keeps a program in mind that a command of a pipeline names. -/
def lookAhead : Command → Script Unit
  | .simple _ _ (word :: _) _ => do
    match plainText? word with
    | some name =>
      if isName name && ((← get).inside? false name).isNone then
        let _ ← locateProgram false name
    | none => return
  | _ => return

end Script

/-! ## Running -/

section

variable (launch : Launch)

mutual

def expand : Nat → Manner → Word → Script (List Atom)
  | 0, _, _ => Script.overflow
  | bound + 1, manner, word => do
    return (← (wordParts true word).mapM fun part => expandPart bound manner part).flatten

def expandPart : Nat → Manner → WordPart → Script (List Atom)
  | 0, _, _ => Script.overflow
  | _ + 1, manner, .all => return (← get).allAtoms manner.splits true true
  | bound + 1, manner, .piece piece isFront isWhole => do
    match piece with
    | .literal text true => return text.map (Atom.char · true)
    | .literal text false => return (← get).literalAtoms manner isFront isWhole text
    | .mark => return [.mark]
    | .output body quoted => return valueAtoms quoted (← outputOf bound body)
    | .arithmetic expression quoted =>
      let text := plainText (← expand bound Manner.plain expression)
      return valueAtoms quoted (numberText (← Arithmetic.evaluate text))
    | .parameter name change emptyToo word quoted =>
      expandParameter bound manner name change emptyToo word quoted

def expandParameter :
    Nat →
    Manner →
    (name : List Char) →
    Change →
    (emptyToo : Bool) →
    (word : Word) →
    (quoted : Bool) →
    Script (List Atom)
  | 0, _, _, _, _, _, _ => Script.overflow
  | bound + 1, manner, name, change, emptyToo, word, quoted => do
    let shell ← get
    let size := shell.size? name manner.splits quoted
    let isMissing := size.isNone || (emptyToo && size = some 0)
    let value := (shell.text? name).getD []
    let kept : List Atom :=
      if size.isNone then []
      else if isAll name then shell.allAtoms manner.splits quoted (name = ['@'])
      else valueAtoms quoted value
    let isValue := manner.tilde = .value || manner.tilde = .assignment
    let inner : Manner :=
      { manner with isInner := !quoted, tilde := if isValue then .value else .front }
    let fault : Script Unit := do
      if size.isNone && shell.has 'u' then
        Script.failOf (name ++ ": parameter not set".toList) 2
    let trimmed (trim : List Char → List Char → List Char) : Script (List Atom) := do
      fault
      if size.isNone then
        return []
      else
        let pattern := patternText (patternOf (← expand bound Manner.text word))
        if isAll name && manner.splits && (!quoted || name = ['@']) then
          let kept := trimAll (change matches .dropFront _) (trim pattern) shell.parameters
          return { shell with parameters := kept }.allAtoms manner.splits quoted true
        else
          return valueAtoms quoted (trim pattern value)
    match change with
    | .unknown => Script.fail "Bad substitution"
    | .keep =>
      fault
      return kept
    | .length =>
      fault
      return valueAtoms quoted (digitsOf (size.getD 0))
    | .orElse => if isMissing then expand bound inner word else return kept
    | .ifPresent =>
      if isMissing then return if quoted then [] else [.seam false]
      else expand bound inner word
    | .orAssign =>
      if isMissing then
        let value := plainText (← expand bound Manner.text word)
        Script.assignMissing name value
        return valueAtoms quoted value
      else
        return kept
    | .orFail =>
      if isMissing then
        let wording ← if word.isEmpty then
            pure (if emptyToo then "parameter not set or null" else "parameter not set").toList
          else
            pure (plainText (← expand bound Manner.text word))
        Script.failOf (name ++ ':' :: ' ' :: wording) 2
      else
        return kept
    | .dropFront longest => trimmed fun pattern value => cutFront pattern longest value
    | .dropEnd longest => trimmed fun pattern value => cutEnd pattern longest value

/-- The output of a command without the ends of lines behind it. -/
def outputOf : Nat → Option Command → Script (List Char)
  | 0, _ => Script.overflow
  | _ + 1, none => return []
  | bound + 1, some body => do
    let job ← Script.newJob
    let pipe ← (Action.perform fun machine =>
      let (pipe, machine) := machine.makePipe
      .done pipe machine : Action Nat)
    let _ ← Script.spawn (some job) (·.connect 1 (some (.writeEnd pipe)))
      (Script.program (finishing bound (run bound ⟨false, true⟩ body)))
    Action.changeSelf (·.connect outputDescriptor (some (.readEnd pipe)))
    let text ← (Action.readAll outputDescriptor : Action _)
    Action.changeSelf (·.connect outputDescriptor none)
    let status ← Script.finishJob job
    modify fun shell => { shell with outputStatus := status }
    let octets := (text.toOption.getD []).filter (· ≠ '\x00')
    return (octets.reverse.dropWhile (· = '\n')).reverse

def textOfWord : Nat → Manner → Word → Script (List Char)
  | 0, _, _ => Script.overflow
  | bound + 1, manner, word => return plainText (← expand bound manner word)

/-- The fields that a word becomes, or the paths that they match. -/
def fieldsOfWord : Nat → Word → Script (List (List Char))
  | 0, _ => Script.overflow
  | bound + 1, word => do
    let atoms ← expand bound Manner.fields word
    let shell ← get
    let fields := fieldsOf shell.separators none atoms
    if shell.has 'f' then
      return fields.map fun field => field.map Prod.fst
    else
      let world ← Script.world
      return fields.flatMap fun field =>
        match pathsOf world field with
        | [] => [field.map Prod.fst]
        | paths => paths

/-- The fields of words up to the first one that has any, with the words
behind it. -/
def firstFields : Nat → List Word → Script (List (List Char) × List Word)
  | 0, _ => Script.overflow
  | _ + 1, [] => return ([], [])
  | bound + 1, word :: rest => do
    match ← fieldsOfWord bound word with
    | [] => firstFields bound rest
    | fields => return (fields, rest)

def openingsOf : Nat → List Redirection → Script (List Opening)
  | 0, _ => Script.overflow
  | bound + 1, redirections =>
    redirections.mapM fun redirection => do
      match redirection with
      | .mk descriptor (.here number) _ => return ⟨descriptor, .document number⟩
      | .mk descriptor .duplicate target =>
        match copiedDescriptor? (← textOfWord bound Manner.text target) with
        | some source => return ⟨descriptor, .copy source⟩
        | none => Script.failDescriptor
      | .mk descriptor direction target =>
        return ⟨descriptor, .path direction (← textOfWord bound Manner.text target)⟩

def openAll : Nat → List Opening → Script Unit
  | 0, _ => Script.overflow
  | bound + 1, openings =>
    openings.forM fun opening => do
      match opening.goal with
      | .path direction path =>
        Script.connect opening.descriptor (some (← Script.openPath direction path))
      | .copy source => Script.copyDescriptor opening.descriptor source
      | .document number =>
        let document := (← get).documents.find? (·.number = number)
        let body := (document.map Document.body).getD []
        let channel ← Script.openText (← textOfWord bound Manner.plain body)
        Script.connect opening.descriptor (some channel)

/-- Makes openings, and says whether that could be done. -/
def canOpen : Nat → List Opening → Script Bool
  | 0, _ => Script.overflow
  | bound + 1, openings => do
    match ← (openAll bound openings).caught with
    | .ok () => return true
    | .error .failed =>
      Script.setStatus 2
      return false
    | .error escape => throw escape

/-- Does what is to be done on the signals that came. -/
def heed : Nat → Script Unit
  | 0 => Script.overflow
  | bound + 1 => do
    let signals ← (Action.perform fun machine =>
      let (signals, machine) := machine.takePending
      .done signals machine : Action (List Nat))
    if !signals.isEmpty then
      heedAll bound (signals.mergeSort (· ≤ ·))

def heedAll : Nat → List Nat → Script Unit
  | 0, _ => Script.overflow
  | _ + 1, [] => return
  | bound + 1, signal :: more => do
    let shell ← get
    match shell.traps.lookup signal with
    | none => heedAll bound more
    | some action =>
      let kept := shell.keptStatus.getD shell.status
      modify fun shell => { shell with keptStatus := some kept }
      let result ← (runText bound ⟨false, false⟩ (.ofText action)).caught
      match result with
      | .error .ended | .error .failed => let _ ← Script.resume result
      | .error escape =>
        Action.changeSelf fun process => { process with pending := process.pending ++ more }
        if escape ≠ .returned true then
          Script.setStatus kept
        modify fun now => { now with keptStatus := shell.keptStatus }
        throw escape
      | .ok _ =>
        Script.setStatus kept
        modify fun now => { now with keptStatus := shell.keptStatus }
        heedAll bound more

/-- Runs a script, and then does what is to be done at the end of the shell; gives
the status of the shell. -/
def finishing : Nat → Script Unit → Script Nat
  | 0, _ => Script.overflow
  | bound + 1, script => do
    let _ ← script.caught
    let shell ← get
    match shell.traps.lookup 0 with
    | none => return shell.status
    | some action =>
      set { shell with
        traps := shell.traps.filter (·.1 ≠ 0)
        keptStatus := some shell.status
        command := none }
      match ← (runText bound ⟨false, false⟩ (.ofText action)).caught with
      | .error .ended | .error .failed => return (← get).status
      | _ => return shell.status

/-- Runs the commands of a script, and gives the status of the last one. -/
def runText : Nat → Mode → ScriptText → Script Nat
  | 0, _, _ => Script.overflow
  | bound + 1, mode, text =>
    Script.restoring (fun before shell => { shell with readLine := before.readLine }) do
      Script.repeated
        (fun (text, status) => do
          match ← Script.nextOf Script.maxBlocks text with
          | (none, _) => return .inr status
          | (some none, text) =>
            heed bound
            return .inl (text, status)
          | (some (some command), text) =>
            let isLast := text.reader.last = .endOfFile
            run bound ⟨mode.tested, mode.exits && isLast⟩ command
            return .inl (text, (← get).status))
        (text, 0)

/-- Runs a command.  If the shell is asked to end on failure, it does so behind
commands whose status nobody looks at. -/
def run : Nat → Mode → Command → Script Unit
  | 0, _, _ => Script.overflow
  | bound + 1, mode, command => do
    let endsOnFailure : Script Bool := do
      let shell ← get
      return shell.has 'e' && !mode.tested && shell.status ≠ 0
    if !(← get).has 'n' then
      heed bound
      match ← (perform bound mode command).caught with
      | .ok isChecked =>
        heed bound
        if isChecked && (← endsOnFailure) then
          Script.leave
      | .error (.returned hasStatus) =>
        if ← endsOnFailure then Script.leave else throw (.returned hasStatus)
      | .error escape => throw escape
    if mode.exits then
      Script.leave

/-- Does what a command says, and tells whether the shell may end because of its
status. -/
def perform : Nat → Mode → Command → Script Bool
  | 0, _, _ => Script.overflow
  | bound + 1, mode, command => do
    match command with
    | .simple line assignments words redirections =>
      Script.setLine line
      runSimple bound mode assignments words redirections
      return true
    | .pipeline stages =>
      let job ← Script.newJob
      startStages bound mode job false stages none true
      Script.setStatus (← Script.finishJob job)
      return true
    | .negated command =>
      run bound ⟨true, false⟩ command
      Script.succeed ((← get).status ≠ 0)
      return false
    | .both left right =>
      run bound ⟨true, false⟩ left
      if (← get).status = 0 then
        run bound mode right
      return false
    | .either left right =>
      run bound ⟨true, false⟩ left
      if (← get).status ≠ 0 then
        run bound mode right
      return false
    | .sequence first second =>
      run bound ⟨mode.tested, false⟩ first
      run bound mode second
      return false
    | .background line command =>
      runBackground bound mode line command
      Script.setStatus 0
      return false
    | .subshell line body redirections =>
      Script.setLine line
      let openings ← openingsOf bound redirections
      let inside : Script Unit := do
        openAll bound openings
        run bound ⟨mode.tested, true⟩ body
      if mode.exits && !(← get).hasTraps then
        inside
      else
        let job ← Script.newJob
        let _ ← Script.spawn (some job) id (Script.program (finishing bound inside))
        Script.setStatus (← Script.finishJob job)
      return true
    | .redirected line command redirections =>
      Script.setLine line
      let openings ← openingsOf bound redirections
      Script.holding do
        if ← canOpen bound openings then
          run bound ⟨mode.tested, false⟩ command
          return false
        else
          return true
    | .branch condition consequent alternative =>
      run bound ⟨true, false⟩ condition
      if (← get).status = 0 then
        run bound mode consequent
      else
        match alternative with
        | some alternative => run bound mode alternative
        | none => Script.setStatus 0
      return false
    | .loop stopOn condition body =>
      inLoop bound do
        Script.repeated
          (fun status => do
            Action.sleep Action.roundDuration
            match ← roundOf bound ⟨true, false⟩ condition with
            | .inr isOver => return if isOver then .inr status else .inl status
            | .inl conditionStatus =>
              if (conditionStatus = 0) = stopOn then
                return .inr status
              else
                match ← roundOf bound ⟨mode.tested, false⟩ body with
                | .inl status => return .inl status
                | .inr isOver =>
                  let status := (← get).status
                  return if isOver then .inr status else .inl status)
          0
      return false
    | .each line name words body =>
      Script.setLine line
      let values := (← words.mapM fun word => fieldsOfWord bound word).flatten
      inLoop bound do
        Script.repeated
          (fun (values, status) => do
            match values with
            | [] => return .inr status
            | value :: values =>
              Script.setVariable name value
              match ← roundOf bound ⟨mode.tested, false⟩ body with
              | .inl status => return .inl (values, status)
              | .inr isOver =>
                let status := (← get).status
                return if isOver then .inr status else .inl (values, status))
          (values, 0)
      return false
    | .choose line word branches =>
      Script.setLine line
      let text ← textOfWord bound Manner.text word
      choose bound mode text branches
      return false
    | .define _ name body =>
      modify fun shell =>
        { shell with functions := ⟨name, body⟩ :: shell.functions.filter (·.name ≠ name) }
      Script.setStatus 0
      return false

def inLoop : Nat → Script Nat → Script Unit
  | 0, _ => Script.overflow
  | _ + 1, script => do
    let status ← Script.restoring (fun before shell => { shell with loops := before.loops }) do
      modify fun shell => { shell with loops := shell.loops + 1 }
      script
    Script.setStatus status

/-- Runs a part of a round of a loop, and gives its status, or says whether the
loop is over when the round is left. -/
def roundOf : Nat → Mode → Command → Script (Nat ⊕ Bool)
  | 0, _, _ => Script.overflow
  | bound + 1, mode, command => do
    match ← (run bound mode command).caught with
    | .ok () => return .inl (← get).status
    | .error (.leaving loops again) =>
      if loops ≤ 1 then
        return .inr (!again)
      else
        throw (.leaving (loops - 1) again)
    | .error escape => throw escape

/-- Runs the first branch with a pattern that matches a text. -/
def choose : Nat → Mode → List Char → List (List Word × Option Command) → Script Unit
  | 0, _, _, _ => Script.overflow
  | _ + 1, _, _, [] => Script.setStatus 0
  | bound + 1, mode, text, (patterns, body) :: more => do
    if ← matchesAny bound text patterns then
      match body with
      | some body => run bound mode body
      | none => Script.setStatus 0
    else
      choose bound mode text more

def matchesAny : Nat → List Char → List Word → Script Bool
  | 0, _, _ => Script.overflow
  | _ + 1, _, [] => return false
  | bound + 1, text, pattern :: more => do
    let pattern := patternText (patternOf (← expand bound Manner.text pattern))
    if matchesPattern pattern text then return true else matchesAny bound text more

/-- Starts the stages of a pipeline, each of which reads what the one in front of it
writes. -/
def startStages :
    Nat →
    Mode →
    (job : Nat) →
    (isBackground : Bool) →
    List Command →
    (input : Option Channel) →
    (isFirst : Bool) →
    Script Unit
  | 0, _, _, _, _, _, _ => Script.overflow
  | _ + 1, _, _, _, [], _, _ => return
  | bound + 1, mode, job, isBackground, stage :: more, input, isFirst => do
    Script.lookAhead stage
    let pipe ← if more.isEmpty then pure none else do
      let pipe ← (Action.perform fun machine =>
        let (pipe, machine) := machine.makePipe
        .done pipe machine : Action Nat)
      pure (some pipe)
    let change (process : Process) : Process :=
      let process := if isBackground then asBackground isFirst process else process
      let process := if input.isSome then process.connect 0 input else process
      match pipe with
      | some pipe => process.connect 1 (some (.writeEnd pipe))
      | none => process
    let child (shell : State) : Program :=
      Script.program (finishing bound (run bound ⟨mode.tested, true⟩ stage))
        (if isBackground then shell.asBackground else shell)
    let number ← Script.spawn (some job) change child
    if isBackground then
      modify fun shell => { shell with latest := some number }
    startStages bound mode job isBackground more (pipe.map Channel.readEnd) false

def runBackground : Nat → Mode → (line : Nat) → Command → Script Unit
  | 0, _, _, _ => Script.overflow
  | bound + 1, mode, line, command => do
    match command with
    | .pipeline stages =>
      let job ← Script.newJob
      startStages bound mode job true stages none true
    | command =>
      Script.setLine line
      let (body, redirections) := match command with
        | .redirected _ body redirections => (body, redirections)
        | command => (command, [])
      let openings ← openingsOf bound redirections
      let job ← Script.newJob
      let inside : Script Unit := do
        openAll bound openings
        run bound ⟨false, true⟩ body
      let number ← Script.spawn (some job) (asBackground true) fun shell =>
        Script.program (finishing bound inside) shell.asBackground
      modify fun shell => { shell with latest := some number }

/-- Finds out what the first word of a command stands for, as far as that takes no
look at programs. -/
def resolve : Nat → Resolution → Script Resolution
  | 0, _ => Script.overflow
  | bound + 1, resolution => do
    match resolution.fields with
    | [] => return resolution
    | name :: _ =>
      let inside? := (← get).inside? resolution.skipsFunctions name
      let resolution := { resolution with inside? := inside? }
      match inside? with
      | some (.builtin "command") =>
        let resolution := { resolution with isSpecial := false, isLocal := true }
        let (isOver, next) ← withoutOptions bound resolution [] resolution.fields
        if isOver then return next else resolve bound { next with skipsFunctions := true }
      | some (.builtin builtin) =>
        return { resolution with
          takesAssignments := assigningBuiltins.contains builtin
          isSpecial := resolution.isSpecial && specialCommands.contains builtin
          isLocal := resolution.isLocal
            || !(resolution.isSpecial && specialCommands.contains builtin) }
      | _ => return { resolution with isLocal := true, isSpecial := false }

/-- What is known about the command behind `command` and its options, and whether
it is `command` itself that is meant.  The fields that were passed are given last
first. -/
def withoutOptions :
    Nat →
    Resolution →
    (passed fields : List (List Char)) →
    Script (Bool × Resolution)
  | 0, _, _, _ => Script.overflow
  | bound + 1, resolution, passed, [] => do
    match ← firstFields bound resolution.rest with
    | ([], rest) => return (true, { resolution with fields := passed.reverse, rest := rest })
    | (fields, rest) => withoutOptions bound { resolution with rest := rest } passed fields
  | bound + 1, resolution, passed, word :: fields => do
    let isOption := word.head? = some '-' && word.length ≠ 1
    if passed.isEmpty || asksStandard word then
      let usesStandard := resolution.usesStandard || asksStandard word
      withoutOptions bound { resolution with usesStandard := usesStandard } (word :: passed)
        fields
    else if passed.head? = some ['-', '-'] || !isOption then
      return (false, { resolution with fields := word :: fields })
    else if word = ['-', '-'] then
      withoutOptions bound resolution (word :: passed) fields
    else
      return (true, { resolution with fields := passed.reverse ++ word :: fields })

/-- Runs a simple command: its words are expanded first, then its redirections are
made, and its assignments come last. -/
def runSimple :
    Nat →
    Mode →
    (assignments : List (List Char × Word)) →
    (words : List Word) →
    (redirections : List Redirection) →
    Script Unit
  | 0, _, _, _, _ => Script.overflow
  | bound + 1, mode, assignments, words, redirections => do
    modify fun shell => { shell with outputStatus := 0 }
    let (fields, rest) ← firstFields bound words
    let resolution ← resolve bound ⟨fields, rest, none, true, false, false, false, false⟩
    let more ← resolution.rest.mapM fun word => do
      if resolution.takesAssignments && (assignment? word).isSome then
        return [← textOfWord bound Manner.assignment word]
      else
        fieldsOfWord bound word
    let words := resolution.fields ++ more.flatten
    let keeps := match resolution.inside? with
      | some (.builtin "exec") => true
      | _ => false
    let replaces := keeps && words.length ≠ 1
    let isLocal := resolution.isLocal && !words.isEmpty
    if isLocal then
      modify State.pushFrame
    let restore : Script Unit :=
      if isLocal then modify State.dropFrame else return
    let inside (isHeld : Bool) : Script Unit := do
      assignAll bound isLocal replaces isHeld assignments words
      runNamed bound mode resolution words
    Script.ensuring
      (do
        let openings ← openingsOf bound redirections
        if openings.isEmpty then
          inside false
        else
          Action.changeSelf Process.beginHolding
          let result ← (do
            if ← canOpen bound openings then
              inside true
            else if resolution.isSpecial && !words.isEmpty then
              throw .failed : Script Unit).caught
          Action.changeSelf (match keeps, result with
            | true, .ok () => Process.forgetHeld
            | _, _ => Process.restoreHeld)
          Script.resume result)
      restore

/-- Makes the assignments of a simple command, and writes the trace of the
command. -/
def assignAll :
    Nat →
    (isLocal isExported isHeld : Bool) →
    (assignments : List (List Char × Word)) →
    (words : List (List Char)) →
    Script Unit
  | 0, _, _, _, _, _ => Script.overflow
  | bound + 1, isLocal, isExported, isHeld, assignments, words => do
    let assigned ← assignments.mapM fun (name, word) => do
      let value ← textOfWord bound Manner.value word
      if isLocal then
        makeLocal true (State.assignmentText (name, value))
      else
        Script.setVariable name value
        if isExported then
          modify fun shell =>
            match shell.binding? name with
            | some binding => shell.bind { binding with isExported := true }
            | none => shell
      return State.assignmentText (name, value)
    let shell ← get
    if shell.has 'x' && !shell.isTracing then
      modify fun shell => { shell with isTracing := true }
      let start ← traceStart bound
      modify fun shell => { shell with isTracing := false }
      Script.putTrace isHeld (start ++ List.intercalate [' '] (assigned ++ words) ++ ['\n'])

def traceStart : Nat → Script (List Char)
  | 0 => Script.overflow
  | bound + 1 => do
    let text := (← get).valueOf "PS4"
    match quotedWord? text with
    | some word =>
      match ← (textOfWord bound Manner.plain word).caught with
      | .ok start => return start
      | .error .failed => return text
      | .error escape => throw escape
    | none => return text

def runNamed : Nat → Mode → Resolution → (words : List (List Char)) → Script Unit
  | 0, _, _, _ => Script.overflow
  | bound + 1, mode, resolution, words => do
    match words with
    | [] => Script.setStatus (← get).outputStatus
    | name :: operands =>
      let target ← match resolution.inside? with
        | some target => pure target
        | none =>
          if name.contains '/' then pure (.program 0)
          else Script.locateProgram resolution.usesStandard name
      match target with
      | .missing fault =>
        Script.warnOf (name ++ ": ".toList ++ launchWording fault)
        Script.setStatus 127
      | .program index =>
        let start := Script.become launch resolution.usesStandard index words
        if mode.exits && !(← get).hasTraps then
          Script.setStatus (← start)
          Script.leave
        else
          let job ← Script.newJob
          let _ ← Script.spawn (some job) id (Script.program start)
          Script.setStatus (← Script.finishJob job)
      | .function body =>
        callFunction bound mode body operands
        Script.reap none
      | .builtin builtin =>
        match ← (Script.named name (runBuiltin bound mode builtin operands)).caught with
        | .error .failed => if resolution.isSpecial then throw .failed
        | result => Script.resume result
        Script.reap none

def callFunction : Nat → Mode → Command → (parameters : List (List Char)) → Script Unit
  | 0, _, _, _ => Script.overflow
  | bound + 1, mode, body, parameters => do
    if maxFunctions ≤ (← get).depth then
      Script.fail "Maximum function recursion depth (1000) reached"
    let call : Script Unit := do
      modify fun shell =>
        { shell with
          parameters := parameters
          optionPlace := (1, 0)
          loops := 0
          depth := shell.depth + 1 }
      run bound ⟨mode.tested, false⟩ body
    let restore (before shell : State) : State :=
      { shell with
        parameters := before.parameters
        optionPlace := before.optionPlace
        loops := before.loops
        depth := before.depth }
    match ← (Script.restoring restore call).caught with
    | .error (.returned _) => return
    | result => Script.resume result

def runBuiltin : Nat → Mode → (name : String) → Builtin
  | 0, _, _ => fun _ => Script.overflow
  | bound + 1, mode, name => fun words => do
    match name with
    | "eval" =>
      let text := List.intercalate [' '] words
      Script.setStatus (← runText bound ⟨mode.tested, false⟩ (.ofText text))
    | "." => runFile bound words
    | "exec" =>
      Script.setStatus 0
      if !words.isEmpty then
        Script.setStatus (← Script.become launch false 0 words)
        Script.leave
    | "command" =>
      let (options, operands) ← optionsOf ['p', 'v', 'V'] words
      Script.setStatus 0
      match lastOption? (options.filter (·.1 ≠ 'p')), operands with
      | some letter, name :: _ =>
        Script.setStatus (← describe (letter = 'V') (options.any (·.1 = 'p')) name)
      | _, _ => return
    | "type" => describeNames words
    | "hash" => rememberPrograms words
    | name =>
      match builtin? name with
      | some builtin => builtin words
      | none => Script.setStatus 127

def runFile : Nat → Builtin
  | 0 => fun _ => Script.overflow
  | bound + 1 => fun words => do
    match ← operandsOf words with
    | [] => Script.setStatus 0
    | name :: _ =>
      let path ← Script.findScript name
      let descriptor ← Script.openScript path
      let text : ScriptText := ⟨Reader.ofText [] 1, some descriptor⟩
      let result ← (Script.named path (runText bound ⟨false, false⟩ text)).caught
      Action.changeSelf (·.connect descriptor none)
      match result with
      | .error (.returned _) => return
      | .error escape => throw escape
      | .ok status => Script.setStatus status

end

end

end Findings.Simulation.Shell
