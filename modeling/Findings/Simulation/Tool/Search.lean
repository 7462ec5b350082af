import Findings.Simulation.Tool.Expression
import Findings.Simulation.Tool.Files

/-!
Contract: finding lines.

Owns:
- going through the lines of an input until enough is known;
- which lines look like one of some patterns, and which parts of them;
- how found lines are written, with what is around them.
-/

namespace Findings.Simulation.Tool

/-! ## Lines -/

/-- The whole lines of a text, and what is behind the last of them. -/
def wholeLines (text : List Char) : List (List Char) × List Char :=
  let (lines, rest) := text.foldl
    (fun ((lines, line) : List (List Char) × List Char) c =>
      if c = '\n' then (line.reverse :: lines, []) else (lines, c :: line))
    ([], [])
  (lines.reverse, rest.reverse)

/-- Goes through the lines that a descriptor gives, as many at a time as are
there, until nothing more is wanted. -/
def eachLines {σ : Type} (descriptor : Nat) (use : σ → List (List Char) → Action (σ × Bool))
    (state : σ) : Action (Except SystemFault σ) :=
  Action.repeated
    (fun ((state, before) : σ × List Char) => do
      match ← Action.read descriptor Action.blockSize with
      | .error fault => return .inr (.error fault)
      | .ok [] =>
        if before.isEmpty then
          return .inr (.ok state)
        else
          return .inr (.ok (← use state [before]).1)
      | .ok octets =>
        let (lines, rest) := wholeLines (before ++ octets)
        if lines.isEmpty then
          return .inl (state, rest)
        else
          let (state, goesOn) ← use state lines
          return if goesOn then .inl (state, rest) else .inr (.ok state))
    Action.maxRounds (state, [])

/-! ## Patterns -/

structure LineSearch where
  patterns : List Expression
  ignoresCase : Bool
  isWhole : Bool
  isWord : Bool
  isOpposite : Bool

namespace LineSearch

def isGood (search : LineSearch) (text : Array Char) (first last : Nat) : Bool :=
  (!search.isWhole || (first = 0 && last = text.size))
    && (!search.isWord || (!(wordSides text first).1 && !(wordSides text last).2))

/-- The first match from a place on, the longest one there. -/
def find? (search : LineSearch) (text : Array Char) (first : Nat) : Option (Nat × Nat) :=
  let found := search.patterns.filterMap fun pattern =>
    (pattern.find? search.ignoresCase text (search.isGood text) first).map fun (place, spot) =>
      (place, spot.place)
  found.foldl
    (fun best (found : Nat × Nat) => match best with
      | none => some found
      | some other =>
        if found.1 < other.1 || (found.1 = other.1 && other.2 < found.2) then some found
        else best)
    none

def holds (search : LineSearch) (line : List Char) : Bool :=
  (search.find? line.toArray 0).isSome != search.isOpposite

/-- The parts of a line that are found and not empty, with their places. -/
def parts (search : LineSearch) (line : List Char) : List (Nat × List Char) :=
  go (line.length + 1) 0
where
  /-- The same from a place on. -/
  go : Nat → Nat → List (Nat × List Char)
    | 0, _ => []
    | bound + 1, first =>
      match search.find? line.toArray first with
      | none => []
      | some (place, last) =>
        if place = last then
          if line.length ≤ place then [] else go bound (place + 1)
        else
          (place, (line.take last).drop place) :: go bound last

end LineSearch

/-! ## Output -/

structure FoundStyle where
  search : LineSearch
  limit : Option Nat
  isQuiet : Bool
  countsOnly : Bool
  /-- Whether only the names of inputs are written, with or without found
  lines. -/
  namesOnly : Option Bool
  partsOnly : Bool
  showsNumbers : Bool
  showsPlaces : Bool
  before : Nat
  after : Nat
  name : Option (List Char)

structure FoundLines where
  /-- The number of lines. -/
  read : Nat
  /-- The number of octets. -/
  size : Nat
  found : Nat
  /-- The lines before, last first, with their numbers and places. -/
  recent : List (Nat × Nat × List Char)
  /-- How many lines behind a found one are still to be shown. -/
  more : Nat
  lastShown : Nat
  isZeroSeen : Bool
  /-- What is to be written, last first. -/
  output : List (List Char)

namespace FoundLines

def start : FoundLines := ⟨0, 0, 0, [], 0, 0, false, []⟩

end FoundLines

namespace FoundStyle

def lineText (style : FoundStyle) (mark : Char) (number place : Nat) (text : List Char) :
    List Char :=
  let name := match style.name with
    | some name => name ++ [mark]
    | none => []
  let number := if style.showsNumbers then Nat.toDigits 10 number ++ [mark] else []
  let place := if style.showsPlaces then Nat.toDigits 10 place ++ [mark] else []
  name ++ number ++ place ++ text ++ ['\n']

def showsLines (style : FoundStyle) : Bool :=
  !style.isQuiet && !style.countsOnly && style.namesOnly.isNone

def takeLine (style : FoundStyle) (state : FoundLines) (line : List Char) : FoundLines :=
  let number := state.read + 1
  let isFound := style.search.holds line
  let shows := style.showsLines
  let hasContext := 0 < style.before || 0 < style.after
  let place := state.size
  let next := { state with read := number, size := state.size + line.length + 1 }
  if isFound then
    let recent := if shows then
        (state.recent.filter fun entry => state.lastShown < entry.1).reverse
      else []
    let first := match recent with
      | entry :: _ => entry.1
      | [] => number
    let gap := if hasContext && 0 < state.lastShown && state.lastShown + 1 < first then
        [['-', '-', '\n']]
      else []
    let context := if style.partsOnly then [] else
      recent.map fun (number, place, text) => style.lineText '-' number place text
    let own :=
      if style.partsOnly then
        if style.search.isOpposite then []
        else (style.search.parts line).map fun (offset, text) =>
          style.lineText ':' number (place + offset) text
      else [style.lineText ':' number place line]
    let written := if shows then gap ++ context ++ own else []
    { next with
      found := state.found + 1
      recent := []
      more := style.after
      lastShown := if shows then number else state.lastShown
      output := written.reverse ++ state.output }
  else if 0 < state.more then
    let written := if shows && !style.partsOnly then [style.lineText '-' number place line] else []
    { next with
      recent := []
      more := state.more - 1
      lastShown := number
      output := written ++ state.output }
  else
    { next with recent := ((number, place, line) :: state.recent).take style.before }

def isDone (style : FoundStyle) (state : FoundLines) : Bool :=
  let isEnough := style.limit.any (· ≤ state.found)
  (isEnough && state.more = 0) || (0 < state.found && (style.isQuiet || style.namesOnly.isSome))

/-- Goes on with lines until nothing more has to be read. -/
def takeLines (style : FoundStyle) : FoundLines → List (List Char) → FoundLines
  | state, [] => state
  | state, line :: more =>
    if style.isDone state then state
    else if style.limit.any (· ≤ state.found) then
      -- Only what is behind the last line that is wanted is still shown.
      let next := { style with search := { style.search with patterns := [], isOpposite := false } }
      style.takeLines (next.takeLine state line) more
    else
      style.takeLines (style.takeLine state line) more

end FoundStyle

/-- Searches through what a descriptor gives; the name is that of the input. -/
def searchInput (program : String) (style : FoundStyle) (name : List Char) (descriptor : Nat) :
    Action (Except SystemFault Bool) := do
  let hasZero (lines : List (List Char)) : Bool := lines.any (·.contains '\x00')
  let use (state : FoundLines) (lines : List (List Char)) : Action (FoundLines × Bool) := do
    if style.limit = some 0 then
      return (state, false)
    let state := { state with isZeroSeen := state.isZeroSeen || hasZero lines }
    let before := state.found
    let state := style.takeLines state lines
    if state.isZeroSeen && style.showsLines && before < state.found then
      complain program (name ++ ": binary file matches".toList)
      return ({ state with output := [] }, false)
    put program state.output.reverse.flatten
    return ({ state with output := [] }, !style.isDone state)
  match ← eachLines descriptor use .start with
  | .error fault => return .error fault
  | .ok state =>
    let named (text : List Char) : List Char :=
      match style.name with
      | some name => name ++ ':' :: text
      | none => text
    if !style.isQuiet then
      match style.namesOnly with
      | some wantsFound =>
        if wantsFound == decide (0 < state.found) then
          put program (name ++ ['\n'])
      | none =>
        if style.countsOnly then
          put program (named (Nat.toDigits 10 state.found) ++ ['\n'])
    return .ok (0 < state.found)

/-! ## The program -/

def searchForms : List OptionForm := [
  ⟨'A', "after-context", .always⟩, ⟨'a', "text", .never⟩, ⟨'B', "before-context", .always⟩,
  ⟨'b', "byte-offset", .never⟩, ⟨'C', "context", .always⟩, ⟨'c', "count", .never⟩,
  ⟨'E', "extended-regexp", .never⟩, ⟨'e', "regexp", .always⟩, ⟨'F', "fixed-strings", .never⟩,
  ⟨'f', "file", .always⟩, ⟨'G', "basic-regexp", .never⟩, ⟨'H', "with-filename", .never⟩,
  ⟨'h', "no-filename", .never⟩, ⟨'i', "ignore-case", .never⟩, ⟨'L', "files-without-match", .never⟩,
  ⟨'l', "files-with-matches", .never⟩, ⟨'m', "max-count", .always⟩, ⟨'n', "line-number", .never⟩,
  ⟨'o', "only-matching", .never⟩, ⟨'q', "quiet", .never⟩, ⟨'q', "silent", .never⟩,
  ⟨'R', "dereference-recursive", .never⟩, ⟨'r', "recursive", .never⟩, ⟨'s', "no-messages", .never⟩,
  ⟨'v', "invert-match", .never⟩, ⟨'w', "word-regexp", .never⟩, ⟨'x', "line-regexp", .never⟩,
  ⟨'y', "", .never⟩, ⟨'O', "color", .maybe⟩, ⟨'U', "line-buffered", .never⟩]

def filesBelow : Nat → List Char → Node → List (List Char)
  | 0, _, _ => []
  | bound + 1, path, node =>
    match node with
    | .folder entries => entries.flatMap fun (name, inner) =>
        filesBelow bound (inside path (octetsOf name)) inner
    | .file _ _ => [path]
    | _ => []

/-- Complains about the way in which a program is called. -/
def refuseUse {α : Type} (program : String) : Action α := do
  let _ ← Action.write 2 ("Usage: ".toList ++ program.toList
    ++ " [OPTION]... PATTERNS [FILE]...\n".toList)
  let _ ← Action.write 2 ("Try '".toList ++ program.toList
    ++ " --help' for more information.\n".toList)
  Action.exit 2

def grep : Tool := fun _ call => do
  let program := call.program
  let size := 2 * ((call.arguments.map List.length).foldl (· + ·) call.arguments.length + 1)
  let arguments ← match parseWords searchForms false size call.arguments with
    | .ok arguments => pure arguments
    | .error wording =>
      complain program wording
      refuseUse program
  let mut patterns : List (List Char) := []
  for option in arguments.options do
    match option.letter, option.value with
    | 'e', some value => patterns := patterns ++ splitAt (· = '\n') value
    | 'f', some path =>
      match ← readInput path with
      | .ok text => patterns := patterns ++ linesOf text
      | .error fault =>
        complain program (path ++ ": ".toList ++ fault.wording.toList)
        Action.exit 2
    | _, _ => pure ()
  let isGiven := arguments.has 'e' || arguments.has 'f'
  if !isGiven then
    match arguments.operands with
    | pattern :: _ => patterns := splitAt (· = '\n') pattern
    | [] => refuseUse program
  let operands := if isGiven then arguments.operands else arguments.operands.tail
  let kind := (arguments.lastOf? ['E', 'F', 'G']).getD
    (if call.program = "egrep" then 'E' else if call.program = "fgrep" then 'F' else 'G')
  let mut expressions : List Expression := []
  for pattern in patterns do
    if kind = 'F' then
      expressions := expressions ++ [.ofText pattern]
    else
      match Expression.ofSpelling (kind = 'E') pattern with
      | .ok expression => expressions := expressions ++ [expression]
      | .error wording =>
        complain program wording.toList
        Action.exit 2
  let number (letter : Char) (kind : String) : Action (Option Nat) := do
    match arguments.valueOf? letter with
    | none => return none
    | some text =>
      if text.isEmpty || !text.all Char.isDigit then
        complain program (if kind.isEmpty then
            text ++ ": invalid context length argument".toList
          else ("invalid " ++ kind).toList)
        Action.exit 2
      return some (text.foldl (fun value c => value * 10 + (c.toNat - '0'.toNat)) 0)
  let limit ← number 'm' "max count"
  let around ← number 'C' ""
  let before ← number 'B' ""
  let after ← number 'A' ""
  let isDeep := arguments.has 'r' || arguments.has 'R'
  let operands := if operands.isEmpty then (if isDeep then [['.']] else [['-']]) else operands
  let showsName : Bool := match arguments.lastOf? ['H', 'h'] with
    | some letter => letter == 'H'
    | none => 1 < operands.length || isDeep
  let style (name : List Char) : FoundStyle := {
    search := {
      patterns := expressions
      ignoresCase := arguments.has 'i' || arguments.has 'y'
      isWhole := arguments.has 'x'
      isWord := arguments.has 'w'
      isOpposite := arguments.has 'v' }
    limit := limit
    isQuiet := arguments.has 'q'
    countsOnly := arguments.has 'c'
    namesOnly := (arguments.lastOf? ['l', 'L']).map (· = 'l')
    partsOnly := arguments.has 'o'
    showsNumbers := arguments.has 'n'
    showsPlaces := arguments.has 'b'
    before := (before.or around).getD 0
    after := (after.or around).getD 0
    name := if showsName then some name else none }
  let mut isFound := false
  let mut isWrong := false
  let mut paths : List (List Char) := []
  for operand in operands do
    match ← nodeOf true operand with
    | .ok node =>
      if isDeep && operand ≠ ['-'] then paths := paths ++ filesBelow maxDepth operand node
      else paths := paths ++ [operand]
    | .error _ => paths := paths ++ [operand]
  for path in paths do
    let name := if path = ['-'] then "(standard input)".toList else path
    let complainHere (fault : SystemFault) : Action Unit := do
      if !arguments.has 's' then
        complain program (name ++ ": ".toList ++ fault.wording.toList)
    match ← withInput path (searchInput program (style name) name) with
    | .ok (.ok found) => isFound := isFound || found
    | .ok (.error fault) | .error fault =>
      complainHere fault
      isWrong := true
    if isFound && arguments.has 'q' then
      Action.exit 0
  return if isWrong then 2 else if isFound then 0 else 1

end Findings.Simulation.Tool
