import Findings.Simulation.Machine.Descriptor
import Findings.Simulation.Machine.Image

/-!
Contract: what the programs of the system have in common.

Owns:
- `Tool`, what a program does with the words that it is given;
- complaints, and output that may fail;
- options among operands, in any order;
- opening the files that operands name, where a hyphen stands for the input.
-/

namespace Findings.Simulation

/-- Goes on as the program that a path leads to, or gives the fault. -/
abbrev Launch := (path : List Char) → ProgramCall → Action SystemFault

abbrev Tool := Launch → ProgramCall → Action Nat

namespace Tool

/-! ## Output -/

def complain (program : String) (wording : List Char) : Action Unit := do
  let _ ← Action.write 2 (program.toList ++ ':' :: ' ' :: wording ++ ['\n'])

def quoted (text : List Char) : List Char :=
  '\'' :: text ++ ['\'']

def isShown (c : Char) : Bool :=
  ' ' ≤ c && c ≤ '~'

def hiddenText (c : Char) : List Char :=
  match c with
  | '\x07' => ['\\', 'a']
  | '\x08' => ['\\', 'b']
  | '\x0c' => ['\\', 'f']
  | '\n' => ['\\', 'n']
  | '\r' => ['\\', 'r']
  | '\t' => ['\\', 't']
  | '\x0b' => ['\\', 'v']
  | c =>
    let digits := Nat.toDigits 8 c.toNat
    '\\' :: List.replicate (3 - digits.length) '0' ++ digits

def singleQuotedName (isHidden : Bool) : List Char → List Char
  | [] => ['\'']
  | c :: rest =>
    let isShownHere := isShown c
    let change :=
      if isHidden && isShownHere then ['\'', '\'']
      else if !isHidden && !isShownHere then ['\'', '$', '\'']
      else []
    let text :=
      if c = '\'' then ['\'', '\\', '\'', '\'']
      else if isShownHere then [c]
      else hiddenText c
    change ++ text ++ singleQuotedName (!isShownHere) rest

/-- A name between quotes, as a shell would read it. -/
def quotedName (name : List Char) : List Char :=
  let isPlain (c : Char) : Bool :=
    c.isAlphanum || [' ', '\'', '%', '+', ',', '-', '.', '/', ':', ']', '_', '@'].contains c
  if name.contains '\'' && name.all isPlain then '"' :: name ++ ['"']
  else '\'' :: singleQuotedName false name

/-- A name, between quotes only if a shell would not read it as it is. -/
def shownName (name : List Char) : List Char :=
  let special := [' ', '!', '"', '$', '&', '(', ')', '*', ';', '<', '=', '>', '[', '^', '\x60',
    '|', '\'', '?', '\\', ':']
  let isSpecial (c : Char) : Bool := special.contains c || !isShown c
  let isFrontSpecial := name.head? = some '~' || name.head? = some '#'
  if name.isEmpty || name.any isSpecial || isFrontSpecial || name = ['\x7b'] || name = ['\x7d'] then
    quotedName name
  else name

/-- Writes a complaint of a program about an operand. -/
def complainOf (program : String) (operand : List Char) (fault : SystemFault) : Action Unit :=
  complain program (shownName operand ++ ": ".toList ++ fault.wording.toList)

/-- Writes octets to the output; the program ends if that cannot be done. -/
def put (program : String) (octets : List Char) : Action Unit := do
  if !octets.isEmpty then
    match ← Action.write 1 octets with
    | .ok () => return
    | .error fault =>
      complain program ("write error: ".toList ++ fault.wording.toList)
      Action.exit 1

def linesText (lines : List (List Char)) : List Char :=
  lines.flatMap (· ++ ['\n'])

/-! ## Options -/

inductive OptionValue where
  | never
  | always
  | maybe
deriving DecidableEq, Repr

/-- An option of a program, by its letter, with its long name. -/
structure OptionForm where
  letter : Char
  name : String
  value : OptionValue

structure GivenOption where
  letter : Char
  value : Option (List Char)

structure Arguments where
  options : List GivenOption
  operands : List (List Char)

namespace Arguments

def has (arguments : Arguments) (letter : Char) : Bool :=
  arguments.options.any (·.letter = letter)

def valueOf? (arguments : Arguments) (letter : Char) : Option (List Char) :=
  (arguments.options.reverse.find? (·.letter = letter)).bind GivenOption.value

def lastOf? (arguments : Arguments) (letters : List Char) : Option Char :=
  (arguments.options.reverse.find? fun option => letters.contains option.letter).map
    GivenOption.letter

def withOption (letter : Char) (value : Option (List Char)) (arguments : Arguments) :
    Arguments :=
  { arguments with options := ⟨letter, value⟩ :: arguments.options }

def withOperand (operand : List Char) (arguments : Arguments) : Arguments :=
  { arguments with operands := operand :: arguments.operands }

end Arguments

/-- The option of a long name, which may be cut short as long as it is clear, or what
is wrong with it. -/
def formOf (forms : List OptionForm) (name : List Char) : Except (List Char) OptionForm :=
  let long (name : List Char) : List Char := quoted ('-' :: '-' :: name)
  match forms.find? (·.name.toList = name) with
  | some form => .ok form
  | none =>
    let possible := forms.filter fun form => name.isPrefixOf form.name.toList && form.name ≠ ""
    match possible with
    | [] => .error ("unrecognized option ".toList ++ long name)
    | form :: more =>
      if more.all (·.letter = form.letter) then .ok form
      else .error ("option ".toList ++ long name ++ " is ambiguous; possibilities:".toList
        ++ possible.flatMap fun form => ' ' :: long form.name.toList)

mutual

/-- Sorts words into options and operands; where the operands count as a command
of their own, nothing behind the first of them is an option. -/
def parseWords (forms : List OptionForm) (isCommand : Bool) :
    Nat → List (List Char) → Except (List Char) Arguments
  | 0, _ | _, [] => .ok ⟨[], []⟩
  | bound + 1, word :: rest =>
    match word with
    | ['-', '-'] => .ok ⟨[], rest⟩
    | '-' :: '-' :: text =>
      let name := text.takeWhile (· ≠ '=')
      let value := if name.length < text.length then some (text.drop (name.length + 1)) else none
      match formOf forms name with
      | .error wording => .error wording
      | .ok form =>
        let long := quoted ('-' :: '-' :: form.name.toList)
        match form.value, value, rest with
        | .never, some _, _ =>
          .error ("option ".toList ++ long ++ " doesn't allow an argument".toList)
        | .always, none, value :: rest =>
          (parseWords forms isCommand bound rest).map (·.withOption form.letter (some value))
        | .always, none, [] =>
          .error ("option ".toList ++ long ++ " requires an argument".toList)
        | _, value, rest =>
          (parseWords forms isCommand bound rest).map (·.withOption form.letter value)
    | '-' :: letter :: letters => parseLetters forms isCommand bound (letter :: letters) rest
    | operand =>
      if isCommand then .ok ⟨[], operand :: rest⟩
      else (parseWords forms isCommand bound rest).map (·.withOperand operand)

/-- Reads the options of the letters of one word, and the words behind it. -/
def parseLetters (forms : List OptionForm) (isCommand : Bool) :
    Nat → List Char → List (List Char) → Except (List Char) Arguments
  | 0, _, _ => .ok ⟨[], []⟩
  | bound + 1, [], rest => parseWords forms isCommand bound rest
  | bound + 1, letter :: letters, rest =>
    match forms.find? (·.letter = letter) with
    | none => .error ("invalid option -- ".toList ++ quoted [letter])
    | some form =>
      match form.value with
      | .never =>
        (parseLetters forms isCommand bound letters rest).map (·.withOption letter none)
      | .maybe =>
        (parseWords forms isCommand bound rest).map
          (·.withOption letter (if letters.isEmpty then none else some letters))
      | .always =>
        match letters, rest with
        | [], [] => .error ("option requires an argument -- ".toList ++ quoted [letter])
        | [], value :: rest =>
          (parseWords forms isCommand bound rest).map (·.withOption letter (some value))
        | value, rest =>
          (parseWords forms isCommand bound rest).map (·.withOption letter (some value))

end

/-- The options of letters without long names; those that are given something are
followed by a colon. -/
def shortForms : List Char → List OptionForm
  | [] => []
  | letter :: ':' :: rest => ⟨letter, "", .always⟩ :: shortForms rest
  | letter :: rest => ⟨letter, "", .never⟩ :: shortForms rest

/-- Complains about the words that a program is given, and ends it. -/
def refuse {α : Type} (program : String) (status : Nat) (wording : List Char) : Action α := do
  complain program wording
  let _ ← Action.write 2
    ("Try '".toList ++ program.toList ++ " --help' for more information.\n".toList)
  Action.exit status

/-- The options and operands of a program, which ends with a status if they are
wrong. -/
def argumentsOf
    (program : String)
    (status : Nat)
    (forms : List OptionForm)
    (isCommand : Bool)
    (words : List (List Char)) :
    Action Arguments := do
  let size := (words.map List.length).foldl (· + ·) words.length + 1
  match parseWords forms isCommand (2 * size) words with
  | .ok arguments => return arguments
  | .error wording => refuse program status wording

/-! ## Input -/

def fileDescriptor : Nat := 100

/-- Does something with the descriptor of what an operand names, and gives the
fault if there is none. -/
def withInput {α : Type} (operand : List Char) (use : Nat → Action α) :
    Action (Except SystemFault α) := do
  if operand = ['-'] then
    return .ok (← use 0)
  else
    match ← Action.openPath (textOf operand) .read with
    | .error fault => return .error fault
    | .ok channel =>
      Action.changeSelf (·.connect fileDescriptor (some channel))
      let value ← use fileDescriptor
      Action.changeSelf (·.connect fileDescriptor none)
      return .ok value

/-- Everything that an operand names, or the fault. -/
def readInput (operand : List Char) : Action (Except SystemFault (List Char)) := do
  return (← withInput operand Action.readAll).bind id

/-- Everything that operands name, one after the other, with complaints about
those that cannot be read, and whether all could be. -/
def readInputs (program : String) (operands : List (List Char)) : Action (List Char × Bool) := do
  let operands := if operands.isEmpty then [['-']] else operands
  let mut texts : List (List Char) := []
  let mut isWhole := true
  for operand in operands do
    match ← readInput operand with
    | .ok text => texts := text :: texts
    | .error fault =>
      complainOf program operand fault
      isWhole := false
  return (texts.reverse.flatten, isWhole)

/-- The lines of a text, without their ends; the last one may have none. -/
def linesOf (text : List Char) : List (List Char) :=
  (go [] [] text).reverse
where
  /-- The lines behind those already read, which are given last first, as the
  line that is read is given last character first. -/
  go (lines : List (List Char)) (line : List Char) : List Char → List (List Char)
    | [] => if line.isEmpty then lines else line.reverse :: lines
    | '\n' :: rest => go (line.reverse :: lines) [] rest
    | c :: rest => go lines (c :: line) rest

end Tool

end Findings.Simulation
