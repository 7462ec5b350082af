import Findings.Simulation.Shell.Lookup
import Findings.Simulation.Tool.Order

/-!
Contract: programs that start other programs, wait, or send signals.

Owns:
- going on as the program that a name stands for;
- surroundings: variables, folders and signals;
- limits of time;
- programs that are run for the words of an input.
-/

namespace Findings.Simulation.Tool

/-! ## Going on -/

/-- The folders that programs are looked for in if nothing else is said. -/
def defaultFolders : List Char :=
  "/bin:/usr/bin".toList

/-- Goes on as the program that a call names, or gives the fault. -/
def goOnAs (launch : Launch) (call : ProgramCall) : Action SystemFault :=
  if call.name.contains '/' then
    Shell.Script.launchFile launch call.name call
  else if call.name.isEmpty then
    return .missing
  else
    let folders := Shell.searchFolders ((call.valueOf? "PATH").getD defaultFolders)
    Shell.Script.launchFirst launch call .missing folders

def failedStatus (fault : SystemFault) : Nat :=
  if fault = .missing then 127 else 126

/-- Goes on as a program; otherwise complains and gives the status. -/
def startOr (launch : Launch) (program doing : String) (call : ProgramCall) : Action Nat := do
  let fault ← goOnAs launch call
  complain program (doing.toList ++ quotedName call.name ++ ':' :: ' ' :: fault.wording.toList)
  return failedStatus fault

/-! ## Variables -/

def setVariable (environment : List (List Char × List Char)) (name value : List Char) :
    List (List Char × List Char) :=
  if environment.any (·.1 = name) then
    environment.map fun entry => if entry.1 = name then (name, value) else entry
  else
    environment ++ [(name, value)]

def assignment? (word : List Char) : Option (List Char × List Char) :=
  let name := word.takeWhile (· ≠ '=')
  if name.length < word.length && !name.isEmpty then some (name, word.drop (name.length + 1))
  else none

def surroundingForms : List OptionForm := [
  ⟨'i', "ignore-environment", .never⟩, ⟨'0', "null", .never⟩, ⟨'u', "unset", .always⟩,
  ⟨'C', "chdir", .always⟩, ⟨'S', "split-string", .always⟩, ⟨'v', "debug", .never⟩]

/-- The words of a text between blanks, where quotes count. -/
def quotedWords : Nat → (word : Option (List Char)) → List Char → List (List Char)
  | 0, _, _ => []
  | _, word, [] => (word.map List.reverse).toList
  | bound + 1, word, c :: rest =>
    if isBlankOctet c then (word.map List.reverse).toList ++ quotedWords bound none rest
    else if c = '\'' || c = '"' then
      let inner := rest.takeWhile (· ≠ c)
      quotedWords bound (some (inner.reverse ++ word.getD [])) (rest.drop (inner.length + 1))
    else if c = '\\' && !rest.isEmpty then
      quotedWords bound (some (rest.headD c :: word.getD [])) rest.tail
    else quotedWords bound (some (c :: word.getD [])) rest

/-- The words of a program in which a text of an option is split. -/
def withSplitWords (words : List (List Char)) : List (List Char) :=
  match words with
  | ['-', 'S'] :: text :: rest => quotedWords (text.length + 1) none text ++ rest
  | ('-' :: 'S' :: text) :: rest => quotedWords (text.length + 1) none text ++ rest
  | words => words

/-- Writes variables, or runs a program with other ones. -/
def env : Tool := fun launch call => do
  let program := call.program
  let arguments ←
    argumentsOf program 125 surroundingForms true (withSplitWords call.arguments)
  let isAlone := arguments.operands.head? = some ['-']
  let operands := if isAlone then arguments.operands.tail else arguments.operands
  let start := if arguments.has 'i' || isAlone then [] else call.environment
  let kept := arguments.options.foldl
    (fun (kept : List (List Char × List Char)) option => match option.letter, option.value with
      | 'u', some name => kept.filter (·.1 ≠ name)
      | _, _ => kept)
    start
  let assigned := operands.takeWhile fun word => (assignment? word).isSome
  let environment := (assigned.filterMap assignment?).foldl
    (fun environment (name, value) => setVariable environment name value) kept
  match operands.drop assigned.length with
  | [] =>
    let ending := if arguments.has '0' then '\x00' else '\n'
    put program (environment.flatMap fun (name, value) => name ++ '=' :: value ++ [ending])
    return 0
  | words =>
    match arguments.valueOf? 'C' with
    | some folder =>
      let world ← Action.observe Machine.world
      match world.resolve true (textOf (folder ++ ['/'])) with
      | .ok place => Action.changeSelf fun process => { process with folder := place }
      | .error fault =>
        complain program ("cannot change directory to ".toList ++ quotedName folder
          ++ ": ".toList ++ fault.wording.toList)
        Action.exit 125
    | none => pure ()
    let status ← startOr launch program "" ⟨words, environment⟩
    if status = 127 && (words.headD []).contains ' ' then
      complain program "use -[v]S to pass options in shebang lines".toList
    return status

def printenv : Tool := fun _ call => do
  let program := call.program
  let arguments ← argumentsOf program 2 [⟨'0', "null", .never⟩] true call.arguments
  let ending := if arguments.has '0' then '\x00' else '\n'
  if arguments.operands.isEmpty then
    put program (call.environment.flatMap fun (name, value) => name ++ '=' :: value ++ [ending])
    return 0
  else
    let values := arguments.operands.map fun name => call.environment.lookup name
    put program ((values.filterMap id).flatMap (· ++ [ending]))
    return if values.all Option.isSome then 0 else 1

/-! ## Signals -/

/-- Runs a program that is not ended by the end of a terminal. -/
def nohup : Tool := fun launch call => do
  let program := call.program
  let arguments ← argumentsOf program 125 [] true call.arguments
  if arguments.operands.isEmpty then
    refuse program 125 "missing operand".toList
  Action.changeSelf (·.dispose 1 .ignore)
  startOr launch program "failed to run command " { call with words := arguments.operands }

def nice : Tool := fun launch call => do
  let program := call.program
  let words := match call.arguments with
    | ('-' :: c :: digits) :: rest =>
      if c.isDigit || ((c = '-' || c = '+') && digits.head?.any Char.isDigit) then
        ['-', 'n'] :: (c :: digits) :: rest
      else call.arguments
    | words => words
  let arguments ← argumentsOf program 125 [⟨'n', "adjustment", .always⟩] true words
  match arguments.valueOf? 'n' with
  | some text =>
    let digits := text.dropWhile fun c => c = '-' || c = '+'
    if digits.isEmpty || !digits.all Char.isDigit then
      complain program ("invalid adjustment ".toList ++ quoted text)
      Action.exit 125
  | none => pure ()
  if arguments.operands.isEmpty then
    put program ['0', '\n']
    return 0
  else
    startOr launch program "" { call with words := arguments.operands }

def setsid : Tool := fun launch call => do
  let program := call.program
  let arguments ← argumentsOf program 1
    [⟨'c', "ctty", .never⟩, ⟨'f', "fork", .never⟩, ⟨'w', "wait", .never⟩] true call.arguments
  if arguments.operands.isEmpty then
    refuse program 1 "no command specified".toList
  let fault ← goOnAs launch { call with words := arguments.operands }
  complain program ("failed to execute ".toList ++ arguments.operands.headD [] ++ ": ".toList
    ++ fault.wording.toList)
  return failedStatus fault

/-- The signal that a word names, with or without the three letters in front. -/
def signalOfWord? (word : List Char) : Option Nat :=
  if !word.isEmpty && word.all Char.isDigit then
    let number := word.foldl (fun value c => value * 10 + (c.toNat - '0'.toNat)) 0
    if number ≤ lastSignal then some number else none
  else
    let name := word.map Char.toUpper
    let name := if "SIG".toList.isPrefixOf name then name.drop 3 else name
    signalOfName? (String.ofList name)

def kill : Tool := fun _ call => do
  let program := call.program
  let (signal?, words) : Option Nat × List (List Char) := match call.arguments with
    | ['-', 's'] :: word :: rest => (signalOfWord? word, rest)
    | ['-', '-'] :: rest => (some 15, rest)
    | ('-' :: word) :: rest => (signalOfWord? word, rest)
    | words => (some 15, words)
  match signal?, words with
  | none, _ | _, [] =>
    complain program "failed to parse argument".toList
    return 1
  | some signal, words =>
    let mut status := 0
    for word in words do
      let sent ← match (textOf word).toNat? with
        | some number => Action.send number signal
        | none => pure (.error .noProcess)
      match sent with
      | .ok () => pure ()
      | .error fault =>
        complain program ('(' :: word ++ "): ".toList ++ fault.wording.toList)
        status := 1
    return status

/-! ## Time -/

/-- The number of nanoseconds of a time with an optional unit; nothing inside if it is
without an end. -/
def timeOf? (text : List Char) : Option (Option Nat) :=
  let unit? : Option Nat := match text.getLast? with
    | some 's' => some 1
    | some 'm' => some 60
    | some 'h' => some 3600
    | some 'd' => some 86400
    | _ => none
  let number := if unit?.isSome then text.dropLast else text
  let unit := unit?.getD 1
  if ["inf", "infinity"].contains (textOf (number.map Char.toLower)) then
    some none
  else
    match placeNumber? number with
    | none => none
    | some value =>
      if value.digits < 0 then none
      else some (some ((value.digits.toNat * unit * Nat.pow 10 9 + Nat.pow 10 value.places - 1)
        / Nat.pow 10 value.places))

def sleep : Tool := fun _ call => do
  let program := call.program
  let arguments ← argumentsOf program 1 [] false call.arguments
  if arguments.operands.isEmpty then
    refuse program 1 "missing operand".toList
  let invalid (word : List Char) : List Char :=
    "invalid time interval ".toList ++ quotedName word
  let wrong := arguments.operands.filter fun word => (timeOf? word).isNone
  match wrong.getLast? with
  | some last =>
    for word in wrong.dropLast do
      complain program (invalid word)
    refuse program 1 (invalid last)
  | none => pure ()
  let times := arguments.operands.filterMap timeOf?
  if times.contains none then
    Action.stall
  Action.sleep ((times.filterMap id).foldl (· + ·) 0)
  return 0

/-- Waits for a child to end, at most until a time. -/
def waitUntil (number : Nat) (time : Option Nat) : Action (Option Ending) :=
  Action.perform fun machine =>
    match machine.waitFor false number with
    | .done ending machine => .done ending machine
    | .blocked _ =>
      match time with
      | some time => if time ≤ machine.clock then .done none machine else .blocked (some time)
      | none => .blocked none

def descendants (machine : Machine) (number : Nat) : List Nat :=
  (machine.processes.foldl
    (fun (found : List Nat) process =>
      if found.contains process.parent then process.number :: found else found)
    [number]).filter (· ≠ number)

/-- What a limit of time does when the time has passed. -/
structure TimeLimit where
  program : String
  child : Nat
  command : List Char
  isAlone : Bool
  tells : Bool
  isKept : Bool

def timedOutStatus : Nat := 124

/-- Sends a signal to a program that took too long, and to those that it
started. -/
def TimeLimit.strike (limit : TimeLimit) (signal : Nat) : Action Unit := do
  if limit.tells then
    complain limit.program ("sending signal ".toList ++ (signalName signal).toList
      ++ " to command ".toList ++ quotedName limit.command)
  let self ← Action.observe Machine.active
  let below ← Action.observe fun machine => descendants machine self
  let targets := if limit.isAlone then [limit.child] else below.reverse
  for number in targets do
    let _ ← Action.send number signal
  if !limit.isAlone && signal = killSignal then
    Action.finish (.killed killSignal)

/-- The status of a program under a limit of time that has ended. -/
def TimeLimit.status (limit : TimeLimit) (isLate : Bool) (ending : Ending) : Action Nat := do
  match ending with
  | .exited status => return if isLate && !limit.isKept then timedOutStatus else status
  | .killed signal =>
    if isLate then
      return if limit.isKept || signal = killSignal then Shell.signalStatus + signal
        else timedOutStatus
    else
      Action.finish (.killed signal)

def timeout : Tool := fun launch call => do
  let program := call.program
  let forms : List OptionForm := [
    ⟨'k', "kill-after", .always⟩, ⟨'s', "signal", .always⟩, ⟨'f', "foreground", .never⟩,
    ⟨'p', "preserve-status", .never⟩, ⟨'v', "verbose", .never⟩]
  let isLetter (word : List Char) : Bool := word == ['-', 'f'] || word == ['-', 'p']
  match call.arguments.find? isLetter with
  | some word => refuse program 125 ("invalid option -- ".toList ++ quoted word.tail)
  | none => pure ()
  let arguments ← argumentsOf program 125 forms true call.arguments
  let timeOr (word : List Char) : Action (Option Nat) := do
    match timeOf? word with
    | some time => return time
    | none => refuse program 125 ("invalid time interval ".toList ++ quotedName word)
  let signal ← match arguments.valueOf? 's' with
    | none => pure 15
    | some word =>
      match signalOfWord? word with
      | some signal => pure signal
      | none => refuse program 125 (quotedName word ++ ": invalid signal".toList)
  let second ← match arguments.valueOf? 'k' with
    | none => pure none
    | some word => timeOr word
  match arguments.operands with
  | [] | [_] =>
    let _ ← Action.write 2
      ("Try '".toList ++ program.toList ++ " --help' for more information.\n".toList)
    return 125
  | time :: words =>
    let time ← timeOr time
    let child := startOr launch program "failed to run command " { call with words := words }
    let number ← Action.fork id child.toProgram
    let now ← Action.observe Machine.clock
    let limit : TimeLimit := {
      program := program
      child := number
      command := words.headD []
      isAlone := arguments.has 'f'
      tells := arguments.has 'v'
      isKept := arguments.has 'p' }
    let until? (start : Nat) (time : Option Nat) : Option Nat :=
      match time with
      | some 0 | none => none
      | some time => some (start + time)
    match ← waitUntil number (until? now time) with
    | some ending => limit.status false ending
    | none =>
      limit.strike signal
      let now ← Action.observe Machine.clock
      match ← waitUntil number (until? now second) with
      | some ending => limit.status true ending
      | none =>
        limit.strike killSignal
        limit.status true ((← waitUntil number none).getD (.exited 0))

/-! ## Words of inputs -/

inductive WordBorder where
  /-- Blanks, where quotes count. -/
  | blanks
  /-- The ends of lines, where quotes count. -/
  | lines
  | octet (c : Char)

/-- Reads words up to the ends that borders say, with the number of the line that each
one is on, or says which quote is not closed. -/
def inputWords (isByLine : Bool) :
    Nat → (line : Nat) → (word : Option (List Char)) → List Char →
    Except String (List (List Char × Nat))
  | 0, _, _, _ => .ok []
  | _, line, word, [] => .ok ((word.map fun word => (word.reverse, line)).toList)
  | bound + 1, line, word, c :: rest => do
    let own : List (List Char × Nat) := (word.map fun word => (word.reverse, line)).toList
    if c = '\n' then
      return own ++ (← inputWords isByLine bound (line + 1) none rest)
    else if isBlankOctet c && (!isByLine || word.isNone) then
      return (if isByLine then [] else own) ++ (← inputWords isByLine bound line none rest)
    else if c = '\'' || c = '"' then
      let inner := rest.takeWhile fun d => d ≠ c && d ≠ '\n'
      match rest.drop inner.length with
      | d :: rest =>
        if d = c then
          inputWords isByLine bound line (some (inner.reverse ++ word.getD [])) rest
        else throw (if c = '"' then "double" else "single")
      | [] => throw (if c = '"' then "double" else "single")
    else if c = '\\' && !rest.isEmpty then
      inputWords isByLine bound line (some (rest.headD c :: word.getD [])) rest.tail
    else
      inputWords isByLine bound line (some (c :: word.getD [])) rest

def borderedWords (border : Char) (text : List Char) : List (List Char × Nat) :=
  let words := splitAt (· = border) text
  let words := if words.getLast? = some [] then words.dropLast else words
  words.zip (List.range words.length)

/-- A text with another one in the place of each part that is equal to a third
one. -/
def replaced (part new : List Char) : Nat → List Char → List Char
  | 0, text => text
  | _, [] => []
  | bound + 1, c :: rest =>
    if !part.isEmpty && part.isPrefixOf (c :: rest) then
      new ++ replaced part new bound ((c :: rest).drop part.length)
    else
      c :: replaced part new bound rest

def groupedWords (limit : Nat) : Nat → List (List Char) → List (List (List Char))
  | 0, _ | _, [] => []
  | bound + 1, words => words.take limit :: groupedWords limit bound (words.drop limit)

def wordsByLines (count : Nat) (words : List (List Char × Nat)) : List (List (List Char)) :=
  let lines := (words.map Prod.snd).eraseDups
  (groupedNumbers lines.length lines).map fun group =>
    (words.filter fun word => group.contains word.2).map Prod.fst
where
  /-- Groups of numbers of lines. -/
  groupedNumbers : Nat → List Nat → List (List Nat)
    | 0, _ | _, [] => []
    | bound + 1, numbers => numbers.take count :: groupedNumbers bound (numbers.drop count)

/-- The greatest number of octets of words that one program is given. -/
def groupSize : Nat := 131072

/-- Groups of as many words as one program can be given. -/
def filledGroups : Nat → (size : Nat) → (group : List (List Char)) → List (List Char) →
    List (List (List Char))
  | 0, _, _, _ => []
  | _, _, group, [] => if group.isEmpty then [] else [group.reverse]
  | bound + 1, size, group, word :: rest =>
    if !group.isEmpty && groupSize < size + word.length + 1 then
      group.reverse :: filledGroups bound 0 [] (word :: rest)
    else
      filledGroups bound (size + word.length + 1) (word :: group) rest

/-- The status of a program some of whose programs failed. -/
def someFailedStatus : Nat := 123

/-- The options of a program that runs programs for words. -/
def groupForms : List OptionForm := [
  ⟨'0', "null", .never⟩, ⟨'a', "arg-file", .always⟩, ⟨'d', "delimiter", .always⟩,
  ⟨'I', "", .always⟩, ⟨'i', "replace", .maybe⟩, ⟨'L', "max-lines", .always⟩,
  ⟨'n', "max-args", .always⟩, ⟨'P', "max-procs", .always⟩, ⟨'r', "no-run-if-empty", .never⟩,
  ⟨'s', "max-chars", .always⟩, ⟨'t', "verbose", .never⟩, ⟨'x', "exit", .never⟩]

/-- Runs a program for words that are read from the input. -/
def xargs : Tool := fun launch call => do
  let program := call.program
  let arguments ← argumentsOf program 1 groupForms true call.arguments
  let count (letter : Char) : Action (Option Nat) := do
    match arguments.valueOf? letter with
    | none => return none
    | some text =>
      match (textOf text).toNat? with
      | none => refuse program 1 ("invalid number \"".toList ++ text ++ "\" for -".toList
          ++ letter :: " option".toList)
      | some 0 => refuse program 1 ("value 0 for -".toList ++ letter :: " option should be >= 1".toList)
      | some number => return some number
  let words ← count 'n'
  let lines ← count 'L'
  let text ← match ← readInput ((arguments.valueOf? 'a').getD ['-']) with
    | .ok text => pure text
    | .error fault =>
      complain program ("Cannot open input file ".toList
        ++ quoted ((arguments.valueOf? 'a').getD []) ++ ": ".toList ++ fault.wording.toList)
      Action.exit 1
  let mark := if arguments.has 'I' then arguments.valueOf? 'I'
    else if arguments.has 'i' then some ((arguments.valueOf? 'i').getD ['\x7b', '\x7d'])
    else none
  let border := if arguments.has '0' then some '\x00'
    else (arguments.valueOf? 'd').map fun text => (readWordBorder text)
  let read : Except String (List (List Char × Nat)) := match border with
    | some border => .ok (borderedWords border text)
    | none => inputWords mark.isSome (text.length + 1) 0 none text
  let found ← match read with
    | .ok found => pure found
    | .error kind =>
      complain program ("unmatched ".toList ++ kind.toList
        ++ " quote; by default quotes are special to xargs unless you use the -0 option".toList)
      Action.exit 1
  let plain := found.map Prod.fst
  let command := if arguments.operands.isEmpty then ["echo".toList] else arguments.operands
  let commands : List (List (List Char)) := match mark with
    | some mark => plain.map fun word =>
        command.map fun (part : List Char) => replaced mark word (part.length + 1) part
    | none =>
      let groups := match words, lines with
        | some words, _ => groupedWords words plain.length plain
        | none, some lines => wordsByLines lines found
        | none, none => filledGroups (2 * plain.length + 2) 0 [] plain
      let groups := if groups.isEmpty && !arguments.has 'r' then [[]] else groups
      groups.map (command ++ ·)
  let mut status := 0
  for words in commands do
    match ← runFor launch call arguments words with
    | 0 => pure ()
    | 1 => status := someFailedStatus
    | other => Action.exit other
  return status
where
  /-- The octet that an option names. -/
  readWordBorder (text : List Char) : Char :=
    match text with
    | ['\\', 'n'] => '\n'
    | ['\\', 't'] => '\t'
    | ['\\', '0'] => '\x00'
    | text => text.headD ' '
  /-- Runs a program and gives zero if it succeeded, one if others may still be run,
  and the status otherwise. -/
  runFor (launch : Launch) (call : ProgramCall) (arguments : Arguments) (words : List (List Char)) :
      Action Nat := do
    let program := call.program
    if arguments.has 't' then
      let _ ← Action.write 2 (List.intercalate [' '] words ++ ['\n'])
    let child : Action Nat := do
      let fault ← goOnAs launch { call with words := words }
      complain program (words.headD [] ++ ": ".toList ++ fault.wording.toList)
      Action.exit (failedStatus fault)
    let number ← Action.fork id child.toProgram
    let name := words.headD []
    match (← Action.waitFor false number).getD (.exited 0) with
    | .exited 0 => return 0
    | .exited 126 => return 126
    | .exited 127 => return 127
    | .exited 255 =>
      complain program (name ++ ": exited with status 255; aborting".toList)
      return 124
    | .exited _ => return 1
    | .killed signal =>
      complain program (name ++ ": terminated by signal ".toList ++ Nat.toDigits 10 signal)
      return 125

end Findings.Simulation.Tool
