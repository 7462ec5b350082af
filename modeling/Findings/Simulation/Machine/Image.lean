import Findings.Simulation.Files
import Findings.Simulation.Machine.Signal

/-!
Contract: which program a file is.

Owns:
- the first line of a script, which names another file that runs it, perhaps
  with one argument;
- `Machine.image`, the program of the system that a path leads to in the end,
  with its arguments, and why a path leads to none.

Does not own: what the programs of the system do.
-/

namespace Findings.Simulation

/-- Words that a program is given, the first of which is its name, with the
variables that it is told. -/
structure ProgramCall where
  words : List (List Char)
  environment : List (List Char × List Char)

namespace ProgramCall

def name (call : ProgramCall) : List Char :=
  call.words.headD []

/-- The name that a program is called by, as a text. -/
def program (call : ProgramCall) : String :=
  textOf call.name

def arguments (call : ProgramCall) : List (List Char) :=
  call.words.tail

def valueOf? (call : ProgramCall) (name : String) : Option (List Char) :=
  call.environment.lookup name.toList

end ProgramCall

/-! ## First lines -/

/-- How many octets of a file are looked at to find out what it is. -/
def firstSize : Nat := 256

def isLineBlank (c : Char) : Bool :=
  c == ' ' || c == '\t'

def endsLineName (c : Char) : Bool :=
  isLineBlank c || c == '\x00'

/-- The name of the interpreter of a script and its argument, given the octets
behind the two that mark a script. -/
def firstLine? (octets : List Char) : Option (List Char × Option (List Char)) :=
  let shown := octets.take (firstSize - 2)
  let padded := shown ++ List.replicate (firstSize - 2 - shown.length) '\x00'
  let line := padded.takeWhile fun c => c ≠ '\n' && c ≠ '\x00'
  let isWhole := (padded.drop line.length).head? = some '\n'
  let visible := padded.dropLast
  let named := visible.dropWhile isLineBlank
  if !isWhole && !named.any endsLineName then
    none
  else
    let line := if isWhole then line else visible
    let line := (line.reverse.dropWhile isLineBlank).reverse
    let line := line.dropWhile isLineBlank
    let name := line.takeWhile fun c => !endsLineName c
    let rest := line.drop name.length
    let argument :=
      if rest.head?.any isLineBlank then
        (rest.dropWhile isLineBlank).takeWhile (· ≠ '\x00')
      else []
    if line.isEmpty then none
    else some (name, if argument.isEmpty then none else some argument)

/-! ## Programs -/

/-- The number of octets that the words and variables of a program take. -/
def ProgramCall.size (call : ProgramCall) : Nat :=
  (call.words.map fun word => word.length + 9).foldl (· + ·) 0
    + (call.environment.map fun (name, value) => name.length + value.length + 10).foldl (· + ·) 0

/-- The least number of octets that a word must not have. -/
def wordLimit : Nat := 131072

/-- The number of octets that all words may take together. -/
def wordsLimit : Nat := 2097152

namespace Machine

/-- The program of the system that a path leads to, with the words that it is
given; the bound is on the number of interpreters of interpreters. -/
def imageWithin (machine : Machine) : Nat → String → List (List Char) →
    Except SystemFault (String × List (List Char))
  | 0, _, _ => .error .tooManyLinks
  | bound + 1, path, words => do
    match ← machine.world.find path with
    | .folder _ | .device _ | .link _ => throw .denied
    | .file content mode =>
      if !mode.isExecutable then
        throw .denied
      match programName? content, content with
      | some name, _ => return (name, words)
      | none, 0x23 :: 0x21 :: rest =>
        match firstLine? (ofBytes (rest.take firstSize)) with
        | none => throw .notExecutable
        | some (name, argument) =>
          machine.imageWithin bound (textOf name)
            (name :: argument.toList ++ octetsOf path :: words.tail)
      | none, _ => throw .notExecutable

/-- How many interpreters of interpreters there may be. -/
def maxInterpreters : Nat := 6

/-- The program of the system that a path leads to, with the words that it is
given. -/
def image (machine : Machine) (path : String) (call : ProgramCall) :
    Except SystemFault (String × ProgramCall) :=
  if (call.words.any fun word => wordLimit ≤ word.length) || wordsLimit < call.size then
    match machine.world.find path with
    | .ok node => .error (if node.isExecutable then .tooManyArguments else .denied)
    | .error fault => .error fault
  else do
    let (name, words) ← machine.imageWithin maxInterpreters path call.words
    return (name, { call with words := words })

end Machine

end Findings.Simulation
