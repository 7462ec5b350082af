import Findings.Simulation.Tool.Basic

/-!
Contract: programs that pass octets on.

Owns:
- copying inputs to the output, as they are or with marks;
- the front and the end of inputs;
- writing to several files at once;
- a line that is written for ever.
-/

namespace Findings.Simulation.Tool

/-! ## Counts -/

/-- The value of a number with an optional unit behind it. -/
def sizeOf? (text : List Char) : Option Nat :=
  let digits := text.takeWhile Char.isDigit
  let value := digits.foldl (fun value c => value * 10 + (c.toNat - '0'.toNat)) 0
  let power? (unit : Char) : Option Nat :=
    match unit with
    | 'k' | 'K' => some 1
    | 'M' | 'm' => some 2
    | 'G' => some 3
    | 'T' => some 4
    | 'P' => some 5
    | 'E' => some 6
    | _ => none
  if digits.isEmpty then none
  else
    match text.drop digits.length with
    | [] => some value
    | ['b'] => some (value * 512)
    | [unit] | [unit, 'i', 'B'] => (power? unit).map fun power => value * Nat.pow 1024 power
    | [unit, 'B'] => (power? unit).map fun power => value * Nat.pow 1000 power
    | _ => none

/-- Ends a program because of a number that is none. -/
def refuseNumber {α : Type} (program kind : String) (text : List Char) : Action α := do
  complain program ("invalid number of ".toList ++ kind.toList ++ ": ".toList ++ quoted text)
  Action.exit 1

/-! ## Whole inputs -/

/-- Whether a descriptor leads to the file that the output leads to, with octets
left in it. -/
def readsOutput (descriptor : Nat) (machine : Machine) : Bool :=
  let file? (descriptor : Nat) : Option OpenFile :=
    match machine.channel? descriptor with
    | some (.file number) => machine.files.lookup number
    | _ => none
  match file? descriptor, file? 1 with
  | some input, some output =>
    let size := ((machine.contentOf input).toOption.getD []).length
    input.location = output.location && input.detached.isNone && output.detached.isNone
      && input.offset < size
  | _, _ => false

/-- Copies what a descriptor gives, and says whether all went well. -/
def copyInput (program : String) (operand : List Char) (descriptor : Nat) : Action Bool := do
  if ← Action.observe (readsOutput descriptor) then
    complain program (shownName operand ++ ": input file is output file".toList)
    return false
  else
    match ← Action.eachBlock descriptor (fun () block => put program block) () with
    | .ok () => return true
    | .error fault =>
      complainOf program operand fault
      return false

structure Marks where
  numbersLines : Bool
  numbersText : Bool
  showsEnds : Bool
  showsTabs : Bool
  showsControls : Bool
  squeezes : Bool

def visibleOctet (c : Char) : List Char :=
  let plain (n : Nat) : List Char :=
    if n < 32 then ['^', Char.ofNat (n + 64)]
    else if n = 127 then ['^', '?']
    else [Char.ofNat n]
  if c.toNat < 128 then plain c.toNat else 'M' :: '-' :: plain (c.toNat - 128)

/-- A text with numbers in front of its lines and marks for what cannot be seen. -/
def markedText (marks : Marks) :
    (isFront : Bool) → (line blanks : Nat) → List Char → List Char
  | _, _, _, [] => []
  | isFront, line, blanks, c :: rest =>
    let isBlank := isFront && c == '\n'
    if isBlank && marks.squeezes && 0 < blanks then
      markedText marks true line (blanks + 1) rest
    else
      let isNumbered := isFront && (if marks.numbersText then !isBlank else marks.numbersLines)
      let digits := Nat.toDigits 10 (line + 1)
      let start := if isNumbered then List.replicate (6 - digits.length) ' ' ++ digits ++ ['\t']
        else []
      let shown :=
        if c = '\n' then if marks.showsEnds then ['$', '\n'] else ['\n']
        else if c = '\t' then if marks.showsTabs then ['^', 'I'] else ['\t']
        else if marks.showsControls then visibleOctet c
        else if c = '\r' && marks.showsEnds && rest.head? = some '\n' then ['^', 'M']
        else [c]
      start ++ shown ++ markedText marks (c == '\n') (if isNumbered then line + 1 else line)
        (if isBlank then blanks + 1 else 0) rest

def cat : Tool := fun _ call => do
  let program := call.program
  let forms : List OptionForm := [
    ⟨'A', "show-all", .never⟩, ⟨'b', "number-nonblank", .never⟩, ⟨'e', "", .never⟩,
    ⟨'E', "show-ends", .never⟩, ⟨'n', "number", .never⟩, ⟨'s', "squeeze-blank", .never⟩,
    ⟨'t', "", .never⟩, ⟨'T', "show-tabs", .never⟩, ⟨'u', "", .never⟩,
    ⟨'v', "show-nonprinting", .never⟩]
  let arguments ← argumentsOf program 1 forms false call.arguments
  let has (letters : List Char) : Bool := letters.any arguments.has
  if arguments.options.all (·.letter = 'u') then
    let operands := if arguments.operands.isEmpty then [['-']] else arguments.operands
    let mut isWhole := true
    for operand in operands do
      match ← withInput operand (copyInput program operand) with
      | .ok isCopied => isWhole := isWhole && isCopied
      | .error fault =>
        complainOf program operand fault
        isWhole := false
    if (← Action.observe (·.channel? 0)).isNone && operands.contains ['-'] then
      complain program ("closing standard input: ".toList ++ SystemFault.badDescriptor.wording.toList)
      isWhole := false
    return if isWhole then 0 else 1
  else
    let marks : Marks := {
      numbersLines := arguments.has 'n'
      numbersText := arguments.has 'b'
      showsEnds := has ['A', 'e', 'E']
      showsTabs := has ['A', 't', 'T']
      showsControls := has ['A', 'e', 't', 'v']
      squeezes := arguments.has 's' }
    let (text, isWhole) ← readInputs program arguments.operands
    put program (markedText marks true 0 0 text)
    return if isWhole then 0 else 1

/-- Copies inputs to the output with their lines in the opposite order. -/
def tac : Tool := fun _ call => do
  let program := call.program
  let arguments ← argumentsOf program 1 (shortForms "br".toList) false call.arguments
  let operands := if arguments.operands.isEmpty then [['-']] else arguments.operands
  let mut status := 0
  for operand in operands do
    match ← readInput operand with
    | .ok text =>
      let lines := linesOf text
      if text.getLast?.any (· ≠ '\n') then
        put program (lines.getLastD [] ++ linesText lines.dropLast.reverse)
      else
        put program (linesText lines.reverse)
    | .error fault =>
      let wording := fault.wording.toList
      complain program (if fault = .isFolder then operand ++ ": read error: ".toList ++ wording
        else "failed to open ".toList ++ quotedName operand ++ " for reading: ".toList ++ wording)
      status := 1
  return status

/-! ## Parts of inputs -/

/-- Whether names are written in front of inputs, given that there are several. -/
def showsNames (arguments : Arguments) (areSeveral : Bool) : Bool :=
  match arguments.lastOf? ['q', 'v'] with
  | some 'q' => false
  | some _ => true
  | none => areSeveral

def putName (program : String) (isFirst : Bool) (operand : List Char) : Action Unit := do
  let name := if operand = ['-'] then "standard input".toList else operand
  put program ((if isFirst then [] else ['\n']) ++ "==> ".toList ++ name ++ " <==\n".toList)

/-- Goes through the inputs of operands, with their names in front of them. -/
def eachNamed
    (program : String)
    (arguments : Arguments)
    (use : Nat → Action (Except SystemFault Unit)) :
    Action Nat := do
  let operands := if arguments.operands.isEmpty then [['-']] else arguments.operands
  let names := showsNames arguments (1 < operands.length)
  let mut status := 0
  let mut isFirst := true
  for operand in operands do
    let useNamed (isFirst : Bool) (descriptor : Nat) : Action (Except SystemFault Unit) := do
      if names then
        putName program isFirst operand
      use descriptor
    match ← withInput operand (useNamed isFirst) with
    | .ok (.ok ()) => isFirst := false
    | .ok (.error fault) =>
      let name := if operand = ['-'] then quoted "standard input".toList else quotedName operand
      complain program ("error reading ".toList ++ name ++ ": ".toList ++ fault.wording.toList)
      isFirst := false
      status := 1
    | .error fault =>
      complain program ("cannot open ".toList ++ quotedName operand ++ " for reading: ".toList
        ++ fault.wording.toList)
      status := 1
  return status

/-- How many octets are read at once where only the front is wanted. -/
def frontBlockSize : Nat := 8192

/-- The octets of some lines at the front of a text, and how many lines are still
wanted behind it. -/
def frontLines (count : Nat) (text : List Char) : List Char × Nat :=
  go count [] text
where
  /-- The same behind octets already taken, which are given last first. -/
  go : (count : Nat) → (taken : List Char) → List Char → List Char × Nat
    | 0, taken, _ => (taken.reverse, 0)
    | count, taken, [] => (taken.reverse, count)
    | count + 1, taken, c :: rest => go (if c = '\n' then count else count + 1) (c :: taken) rest

/-- Copies some lines or octets from the front of what a descriptor gives; the next
one who reads from it goes on behind them, if that can be done. -/
def copyFront (program : String) (isOctets : Bool) (count descriptor : Nat) :
    Action (Except SystemFault Unit) :=
  Action.repeated
    (fun count => do
      if count = 0 then
        return .inr (.ok ())
      else
        let limit := if isOctets then min count frontBlockSize else frontBlockSize
        match ← Action.read descriptor limit with
        | .error fault => return .inr (.error fault)
        | .ok [] => return .inr (.ok ())
        | .ok octets =>
          let (taken, left) :=
            if isOctets then (octets, count - octets.length) else frontLines count octets
          Action.update (Machine.stepBack descriptor (octets.length - taken.length))
          put program taken
          return .inl left)
    Action.maxRounds count

structure PartCount where
  isOctets : Bool
  /-- Whether the count has a minus sign, or a plus sign. -/
  isOpposite : Bool
  count : Nat

def partCount (program : String) (sign : Char) (arguments : Arguments) : Action PartCount := do
  let letter := (arguments.lastOf? ['n', 'c']).getD 'n'
  let isOctets := letter = 'c'
  let text := (arguments.valueOf? letter).getD ['1', '0']
  let isOpposite := text.head? = some sign
  let digits := if text.head? = some '+' || text.head? = some '-' then text.tail else text
  match sizeOf? digits with
  | some count => return ⟨isOctets, isOpposite, count⟩
  | none => refuseNumber program (if isOctets then "bytes" else "lines") text

/-- The words of a program in which a number behind a hyphen at the front is
written out as an option. -/
def withCountOption (words : List (List Char)) : List (List Char) :=
  match words with
  | ('-' :: c :: rest) :: more =>
    if c.isDigit then
      let digits := (c :: rest).takeWhile Char.isDigit
      let letters := (c :: rest).drop digits.length
      let kept := letters.filter fun letter => letter ≠ 'c' && letter ≠ 'l'
      let count := (if letters.contains 'c' then ['-', 'c'] else ['-', 'n']) ++ digits
      count :: (if kept.isEmpty then more else ('-' :: kept) :: more)
    else words
  | words => words

/-- The options of programs that copy parts of inputs. -/
def partForms : List OptionForm := [
  ⟨'c', "bytes", .always⟩, ⟨'n', "lines", .always⟩, ⟨'q', "quiet", .never⟩,
  ⟨'q', "silent", .never⟩, ⟨'v', "verbose", .never⟩, ⟨'f', "follow", .never⟩,
  ⟨'F', "", .never⟩, ⟨'z', "zero-terminated", .never⟩]

def head : Tool := fun _ call => do
  let program := call.program
  match call.arguments.head? with
  | some ('-' :: c :: rest) =>
    if c.isDigit then
      match (rest.dropWhile Char.isDigit).find? fun c => !"bckmlqv".toList.contains c with
      | some c =>
        complain program ("invalid trailing option -- ".toList ++ [c])
        let _ ← Action.write 2 "Try 'head --help' for more information.\n".toList
        Action.exit 1
      | none => pure ()
  | _ => pure ()
  let arguments ← argumentsOf program 1 partForms false (withCountOption call.arguments)
  let part ← partCount program '-' arguments
  eachNamed program arguments fun descriptor => do
    if part.isOpposite then
      match ← Action.readAll descriptor with
      | .error fault => return .error fault
      | .ok text =>
        if part.isOctets then
          put program (text.take (text.length - part.count))
        else
          let (lines, _) := frontLines ((linesOf text).length - part.count) text
          put program lines
        return .ok ()
    else
      copyFront program part.isOctets part.count descriptor

def tail : Tool := fun _ call => do
  let program := call.program
  let words := match call.arguments with
    | ('+' :: c :: rest) :: more =>
      if c.isDigit then ('-' :: 'n' :: '+' :: c :: rest) :: more else call.arguments
    | words => withCountOption words
  let arguments ← argumentsOf program 1 partForms false words
  let part ← partCount program '+' arguments
  if part.count = 0 && !part.isOpposite then
    Action.exit 0
  let status ← eachNamed program arguments fun descriptor => do
    match ← Action.readAll descriptor with
    | .error fault => return .error fault
    | .ok text =>
      if part.isOctets then
        put program (text.drop (if part.isOpposite then part.count - 1
          else text.length - part.count))
      else
        let skipped := if part.isOpposite then part.count - 1
          else (linesOf text).length - part.count
        let (lines, _) := frontLines skipped text
        put program (text.drop lines.length)
      return .ok ()
  if arguments.has 'f' || arguments.has 'F' then
    Action.stall
  else
    return status

/-! ## Several outputs -/

/-- Opens files to be written, from a descriptor on, and gives those that could be
opened. -/
def openOutputs (program : String) (mode : OpenMode) :
    Nat → List (List Char) → Action (List (List Char × Nat) × Bool)
  | _, [] => return ([], true)
  | descriptor, operand :: more => do
    match ← Action.openPath (textOf operand) mode with
    | .ok channel =>
      Action.changeSelf (·.connect descriptor (some channel))
      let (outputs, isWhole) ← openOutputs program mode (descriptor + 1) more
      return ((operand, descriptor) :: outputs, isWhole)
    | .error fault =>
      complainOf program operand fault
      let (outputs, _) ← openOutputs program mode descriptor more
      return (outputs, false)

def tee : Tool := fun _ call => do
  let program := call.program
  let forms : List OptionForm := [
    ⟨'a', "append", .never⟩, ⟨'i', "ignore-interrupts", .never⟩, ⟨'p', "output-error", .maybe⟩]
  let arguments ← argumentsOf program 1 forms false call.arguments
  if arguments.has 'i' then
    Action.changeSelf (·.dispose 2 .ignore)
  let mode := if arguments.has 'a' then OpenMode.append else .write
  let (outputs, isWhole) ← openOutputs program mode (fileDescriptor + 1) arguments.operands
  let outputs := (quoted "standard output".toList, 1) :: outputs
  let result ← Action.eachBlock 0
    (fun (outputs, isWhole) block => do
      let mut kept : List (List Char × Nat) := []
      let mut isWhole := isWhole
      for (name, descriptor) in outputs do
        match ← Action.write descriptor block with
        | .ok () => kept := kept ++ [(name, descriptor)]
        | .error fault =>
          complainOf program name fault
          isWhole := false
      return (kept, isWhole))
    (outputs, isWhole)
  match result with
  | .ok (_, true) => return 0
  | .ok (_, false) => return 1
  | .error fault =>
    complain program ("read error: ".toList ++ fault.wording.toList)
    return 1

/-! ## For ever -/

/-- The number of octets that are written at once by what writes for ever. -/
def endlessBlockSize : Nat := 8192

def yes : Tool := fun _ call => do
  let program := call.program
  let arguments ← argumentsOf program 1 [] false call.arguments
  let words := if arguments.operands.isEmpty then [['y']] else arguments.operands
  let line := List.intercalate [' '] words ++ ['\n']
  let block := (List.replicate (max 1 (endlessBlockSize / line.length)) line).flatten
  Action.repeated
    (fun () => do
      Action.sleep (block.length * Action.octetDuration)
      match ← Action.write 1 block with
      | .ok () => return .inl ()
      | .error fault =>
        complain program ("standard output: ".toList ++ fault.wording.toList)
        return .inr 1)
    Action.maxRounds ()

end Findings.Simulation.Tool
