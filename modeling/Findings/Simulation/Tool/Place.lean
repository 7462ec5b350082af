import Findings.Simulation.Tool.Files

/-!
Contract: programs about paths.

Owns:
- the parts of paths;
- where links lead, and the absolute paths of places;
- files and folders of new names.
-/

namespace Findings.Simulation.Tool

/-! ## Parts -/

/-- Ends a program that was given an operand too many. -/
def refuseExtra {α : Type} (program : String) (operand : List Char) : Action α :=
  refuse program 1 ("extra operand ".toList ++ quoted operand)

/-- The last part of a path, without an ending if it is longer than that. -/
def partWithout (ending path : List Char) : List Char :=
  let name := lastPart path
  if ending.isSuffixOf name && ending.length < name.length then
    name.take (name.length - ending.length)
  else
    name

def basename : Tool := fun _ call => do
  let program := call.program
  let forms : List OptionForm := [
    ⟨'a', "multiple", .never⟩, ⟨'s', "suffix", .always⟩, ⟨'z', "zero", .never⟩]
  let arguments ← argumentsOf program 1 forms true call.arguments
  let ending := if arguments.has 'z' then '\x00' else '\n'
  let areSeveral := arguments.has 'a' || arguments.has 's'
  match arguments.operands, areSeveral with
  | [], _ => refuse program 1 "missing operand".toList
  | _ :: _ :: extra :: _, false => refuseExtra program extra
  | [path, cut], false => put program (partWithout cut path ++ [ending])
  | paths, _ =>
    let cut := (arguments.valueOf? 's').getD []
    put program (paths.flatMap fun path => partWithout cut path ++ [ending])
  return 0

def pathAround (path : List Char) : List Char :=
  let short := withoutEndSlashes path
  let around := (short.reverse.dropWhile (· ≠ '/')).reverse
  if around.isEmpty then ['.'] else withoutEndSlashes around

def dirname : Tool := fun _ call => do
  let program := call.program
  let arguments ← argumentsOf program 1 [⟨'z', "zero", .never⟩] false call.arguments
  let ending := if arguments.has 'z' then '\x00' else '\n'
  if arguments.operands.isEmpty then
    refuse program 1 "missing operand".toList
  put program (arguments.operands.flatMap fun path => pathAround path ++ [ending])
  return 0

/-! ## Places -/

/-- The absolute path, without links, of the place of a path, of which the last part
need not be there, unless it has to be. -/
def realPathOf (isWhole : Bool) (path : List Char) : Action (Except SystemFault (List Char)) := do
  let world ← world
  let place := match world.resolve true (textOf path), isWhole with
    | .error .missing, false => world.resolveNew (textOf (withoutEndSlashes path))
    | place, _ => place
  return place.map fun place => octetsOf (locationPath place)

def readlink : Tool := fun _ call => do
  let program := call.program
  let forms : List OptionForm := [
    ⟨'e', "canonicalize-existing", .never⟩, ⟨'f', "canonicalize", .never⟩,
    ⟨'m', "canonicalize-missing", .never⟩, ⟨'n', "no-newline", .never⟩,
    ⟨'q', "quiet", .never⟩, ⟨'s', "silent", .never⟩, ⟨'v', "verbose", .never⟩,
    ⟨'z', "zero", .never⟩]
  let arguments ← argumentsOf program 1 forms false call.arguments
  let ending := if arguments.has 'z' then ['\x00'] else if arguments.has 'n' then [] else ['\n']
  eachOperand program "missing operand" arguments fun operand => do
    let result ← if ['e', 'f', 'm'].any arguments.has then
        realPathOf (arguments.has 'e') operand
      else do
        match ← nodeOf false operand with
        | .ok (.link target) => pure (.ok (octetsOf target))
        | .ok _ => pure (.error .invalid)
        | .error fault => pure (.error fault)
    match result with
    | .ok path =>
      put program (path ++ ending)
      return true
    | .error fault =>
      if arguments.has 'v' then
        complainOf program operand fault
      return false

def realpath : Tool := fun _ call => do
  let program := call.program
  let forms : List OptionForm := [
    ⟨'e', "canonicalize-existing", .never⟩, ⟨'m', "canonicalize-missing", .never⟩,
    ⟨'q', "quiet", .never⟩, ⟨'s', "strip", .never⟩, ⟨'z', "zero", .never⟩]
  let arguments ← argumentsOf program 1 forms false call.arguments
  let ending := if arguments.has 'z' then '\x00' else '\n'
  eachOperand program "missing operand" arguments fun operand => do
    match ← realPathOf (arguments.has 'e') operand with
    | .ok path =>
      put program (path ++ [ending])
      return true
    | .error fault =>
      if !arguments.has 'q' then
        complainOf program operand fault
      return false

/-! ## New names -/

/-- How many characters of a new name are chosen at the least. -/
def leastChosen : Nat := 3

/-- A template with characters chosen by a number in the place of those at its
end. -/
def chosenName (template : List Char) (number : Nat) : List Char :=
  let count := (template.reverse.takeWhile (· = 'X')).length
  let digits := Nat.toDigits 10 number
  template.take (template.length - count) ++ List.replicate (count - digits.length) 'a'
    ++ digits.take count

def mktemp : Tool := fun _ call => do
  let program := call.program
  let forms : List OptionForm := [
    ⟨'d', "directory", .never⟩, ⟨'p', "tmpdir", .always⟩, ⟨'q', "quiet", .never⟩,
    ⟨'t', "", .never⟩, ⟨'u', "dry-run", .never⟩]
  let arguments ← argumentsOf program 1 forms false call.arguments
  let template := arguments.operands.headD "tmp.XXXXXXXXXX".toList
  let count := (template.reverse.takeWhile (· = 'X')).length
  match arguments.operands with
  | _ :: _ :: _ => refuse program 1 "too many templates".toList
  | _ => pure ()
  if count < leastChosen then
    complain program ("too few X's in template ".toList ++ quoted template)
    Action.exit 1
  let folder := (arguments.valueOf? 'p').getD ((call.valueOf? "TMPDIR").getD "/tmp".toList)
  let isInFolder := arguments.operands.isEmpty || arguments.has 't' || arguments.has 'p'
  let number ← Action.perform fun machine =>
    let (number, machine) := machine.takeNumber
    .done number machine
  let name := chosenName template number
  let path := if isInFolder then inside folder name else name
  if !arguments.has 'u' then
    match ← makeNode path (if arguments.has 'd' then .folder [] else .file [] .readable) with
    | .ok () => pure ()
    | .error fault =>
      complain program ("failed to create ".toList
        ++ (if arguments.has 'd' then "directory" else "file").toList ++ " via template ".toList
        ++ quoted (if isInFolder then inside folder template else template) ++ ": ".toList
        ++ fault.wording.toList)
      Action.exit 1
  put program (path ++ ['\n'])
  return 0

end Findings.Simulation.Tool
