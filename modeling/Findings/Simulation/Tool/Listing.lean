import Findings.Simulation.Shell.Pattern
import Findings.Simulation.Order
import Findings.Simulation.Tool.Files

/-!
Contract: programs that list files.

Owns:
- lists of the files in folders, short or long;
- searches below folders for the files that pass tests.

Names are in the order of their octets.
-/

namespace Findings.Simulation.Tool

/-! ## Lists -/

structure ListStyle where
  showsHidden : Bool
  showsLinks : Bool
  isLong : Bool
  isReverse : Bool
  isDeep : Bool
  showsFolders : Bool
  marksFolders : Bool
  marksKinds : Bool
  bySize : Bool

/-- The mark behind the name of a file that tells its kind. -/
def kindMark (style : ListStyle) (node : Node) : List Char :=
  match node with
  | .folder _ => if style.marksKinds || style.marksFolders then ['/'] else []
  | .link _ => if style.marksKinds then ['@'] else []
  | .file _ mode => if style.marksKinds && mode.isExecutable then ['*'] else []
  | .device _ => []

def nodeSize (node : Node) : Nat :=
  match node with
  | .file content _ => content.length
  | .link target => target.utf8ByteSize
  | .folder _ => 4096
  | .device _ => 0

def permissionText (mode : Mode) : List Char :=
  ("rwxrwxrwx".toList.zip (List.range 9).reverse).map fun (letter, bit) =>
    if mode.getLsbD bit then letter else '-'

def modeText (node : Node) : List Char :=
  match node with
  | .file _ mode => '-' :: permissionText mode
  | .link _ => "lrwxrwxrwx".toList
  | .folder _ => "drwxr-xr-x".toList
  | .device _ => "crw-rw-rw-".toList

def listLines (style : ListStyle) (nodes : List (List Char × Node)) : List (List Char) :=
  let width := ((nodes.map fun node => (Nat.toDigits 10 (nodeSize node.2)).length).foldl max 0)
  let sorted := nodes.mergeSort fun left right =>
    if style.bySize && nodeSize left.2 ≠ nodeSize right.2 then
      nodeSize right.2 ≤ nodeSize left.2
    else Text.notAfter left.1 right.1
  (if style.isReverse then sorted.reverse else sorted).map fun (name, node) =>
    if style.isLong then
      let digits := Nat.toDigits 10 (nodeSize node)
      let links := match node with
        | .folder entries =>
          Nat.toDigits 10 (2 + (entries.filter fun entry => entry.2 matches .folder _).length)
        | _ => ['1']
      let target := match node with
        | .link target => " -> ".toList ++ octetsOf target
        | _ => []
      modeText node ++ ' ' :: links ++ " root root ".toList
        ++ List.replicate (width - digits.length) ' ' ++ digits ++ " Jan  1 00:00 ".toList
        ++ name ++ (if target.isEmpty then kindMark style node else target)
    else
      name ++ kindMark style node

/-- The lines that list a folder, and the folders in it. -/
def folderLines (style : ListStyle) : Nat → List Char → Node → List (List Char)
  | 0, _, _ => []
  | bound + 1, path, folder =>
    let entries := folder.entries.map fun (name, node) => (octetsOf name, node)
    let own := if style.showsLinks then
        [(['.'], folder), (['.', '.'], Node.folder [])]
      else []
    let shown := own ++ entries.filter fun entry =>
      style.showsHidden || entry.1.head? ≠ some '.'
    let blocks := (shown.map fun entry => match entry.2 with
      | .file content _ => (content.length + 4095) / 4096 * 4
      | .folder _ => 4
      | _ => 0).foldl (· + ·) 0
    let lines := (if style.isLong then ["total ".toList ++ Nat.toDigits 10 blocks] else [])
      ++ listLines style shown
    if style.isDeep then
      let inner := (shown.filter fun entry =>
        (entry.2 matches .folder _) && entry.1 ≠ ['.'] && entry.1 ≠ ['.', '.']).mergeSort
          fun left right => left.1 ≤ right.1
      lines ++ inner.flatMap fun (name, node) =>
        [] :: (inside path name ++ [':']) :: folderLines style bound (inside path name) node
    else
      lines

def ls : Tool := fun _ call => do
  let program := call.program
  let forms := shortForms "aAbBcCdfFghHiklLmnNopqQrRsStuUvxXZ1".toList ++ [
    ⟨'a', "all", .never⟩, ⟨'A', "almost-all", .never⟩, ⟨'d', "directory", .never⟩,
    ⟨'F', "classify", .maybe⟩, ⟨'R', "recursive", .never⟩, ⟨'r', "reverse", .never⟩,
    ⟨'O', "color", .maybe⟩]
  let arguments ← argumentsOf program 2 forms false call.arguments
  let style : ListStyle := {
    showsHidden := arguments.has 'a' || arguments.has 'A' || arguments.has 'f'
    showsLinks := arguments.lastOf? ['a', 'A'] = some 'a' || arguments.has 'f'
    isLong := ['l', 'g', 'n', 'o'].any arguments.has
    isReverse := arguments.has 'r'
    isDeep := arguments.has 'R'
    showsFolders := arguments.has 'd'
    marksFolders := arguments.has 'p'
    marksKinds := arguments.has 'F'
    bySize := arguments.has 'S' }
  let operands := if arguments.operands.isEmpty then [['.']] else arguments.operands
  let mut files : List (List Char × Node) := []
  let mut folders : List (List Char × Node) := []
  let mut status := 0
  for operand in operands do
    let follows := !style.isLong && !style.showsFolders
    let node ← match ← nodeOf follows operand with
      | .error .missing => if follows then nodeOf false operand else pure (.error .missing)
      | node => pure node
    match node with
    | .ok (.folder entries) =>
      if style.showsFolders then files := files ++ [(operand, .folder entries)]
      else folders := folders ++ [(operand, .folder entries)]
    | .ok node => files := files ++ [(operand, node)]
    | .error fault =>
      complainDoing program "cannot access" operand fault
      status := 2
  put program (linesText (listLines style files))
  let sorted := folders.mergeSort fun left right => Text.notAfter left.1 right.1
  let sorted := if style.isReverse then sorted.reverse else sorted
  let isNamed := 1 < operands.length || style.isDeep
  let mut isFirst := files.isEmpty
  for (path, folder) in sorted do
    let lines := folderLines style maxDepth path folder
    put program ((if isFirst then [] else ['\n'])
      ++ (if isNamed then path ++ [':', '\n'] else []) ++ linesText lines)
    isFirst := false
  return status

/-! ## Searches -/

/-- What a search does with each file; it holds or does not. -/
inductive SearchStep where
  | always (holds : Bool)
  | name (pattern : List Char) (ignoresCase : Bool)
  | path (pattern : List Char)
  | kind (letters : List Char)
  | empty
  /-- Writes the path with an octet behind it. -/
  | print (ending : Char)
  | erase
  /-- Does not go into the folder. -/
  | prune
  /-- Runs a program, where braces stand for the path. -/
  | run (words : List (List Char))
  | not (step : SearchStep)
  | both (left right : SearchStep)
  | either (left right : SearchStep)

structure FileSearch where
  step : SearchStep
  least : Nat
  most : Nat
  /-- Whether what is in a folder comes before the folder. -/
  isDeepFirst : Bool

def SearchStep.acts : SearchStep → Bool
  | .print _ | .erase | .run _ => true
  | .not step => step.acts
  | .both left right | .either left right => left.acts || right.acts
  | _ => false

def SearchStep.erases : SearchStep → Bool
  | .erase => true
  | .not step => step.erases
  | .both left right | .either left right => left.erases || right.erases
  | _ => false

def kindLetter : Node → Char
  | .file _ _ => 'f'
  | .folder _ => 'd'
  | .link _ => 'l'
  | .device _ => 'c'

def isHollow : Node → Bool
  | .file content _ => content.isEmpty
  | .folder entries => entries.isEmpty
  | _ => false

def withPath (path : List Char) : List Char → List Char
  | '\x7b' :: '\x7d' :: rest => path ++ withPath path rest
  | c :: rest => c :: withPath path rest
  | [] => []

def runChild (launch : Launch) (call : ProgramCall) (words : List (List Char)) : Action Ending := do
  let child : Action Nat := do
    let fault ← launch (words.headD []) { call with words := words }
    complain call.program (quoted (words.headD []) ++ ": ".toList ++ fault.wording.toList)
    return 1
  let number ← Action.fork id child.toProgram
  return (← Action.waitFor false number).getD (.exited 0)

/-- What came of a step: whether it holds, and whether the folder is left
out. -/
structure SearchResult where
  holds : Bool
  prunes : Bool

def SearchStep.perform (launch : Launch) (call : ProgramCall) (path : List Char) (node : Node) :
    SearchStep → Action SearchResult
  | .always holds => return ⟨holds, false⟩
  | .name pattern ignoresCase => do
    let name := lastPart path
    return ⟨if ignoresCase then
        Shell.matchesPattern (pattern.map Char.toLower) (name.map Char.toLower)
      else Shell.matchesPattern pattern name, false⟩
  | .path pattern => return ⟨Shell.matchesPattern pattern path, false⟩
  | .kind letters => return ⟨letters.contains (kindLetter node), false⟩
  | .empty => return ⟨isHollow node, false⟩
  | .print ending => do
    put call.program (path ++ [ending])
    return ⟨true, false⟩
  | .erase => do
    let result ← attempt fun machine => do
      let place ← machine.world.resolve false (textOf path)
      match machine.root.at? place with
      | some (.folder (_ :: _)) => throw .notEmpty
      | _ => return machine.eraseNode place
    match result with
    | .ok () => return ⟨true, false⟩
    | .error fault =>
      complainDoing call.program "cannot delete" path fault
      return ⟨false, false⟩
  | .prune => return ⟨true, true⟩
  | .run words => do
    let ending ← runChild launch call (words.map (withPath path))
    return ⟨ending == .exited 0, false⟩
  | .not step => do
    let result ← step.perform launch call path node
    return ⟨!result.holds, result.prunes⟩
  | .both left right => do
    let first ← left.perform launch call path node
    if first.holds then
      let second ← right.perform launch call path node
      return ⟨second.holds, first.prunes || second.prunes⟩
    else
      return first
  | .either left right => do
    let first ← left.perform launch call path node
    if first.holds then
      return first
    else
      let second ← right.perform launch call path node
      return ⟨second.holds, first.prunes || second.prunes⟩

/-- Searches at a path and below it, and tells whether everything was found; the
bound is on how deep folders are. -/
def FileSearch.visit (search : FileSearch) (launch : Launch) (call : ProgramCall) :
    Nat → (depth : Nat) → (path : List Char) → Action Bool
  | 0, _, _ => return false
  | bound + 1, depth, path => do
    match ← nodeOf false path with
    | .error fault =>
      complain call.program (quoted path ++ ": ".toList ++ fault.wording.toList)
      return false
    | .ok node =>
      let here : Action SearchResult :=
        if search.least ≤ depth then search.step.perform launch call path node
        else return ⟨true, false⟩
      let before ← if search.isDeepFirst then pure ⟨true, false⟩ else here
      let names := if before.prunes || search.most ≤ depth then [] else node.entries.map Prod.fst
      let mut isWhole := true
      for name in names do
        if !(← search.visit launch call bound (depth + 1) (inside path (octetsOf name))) then
          isWhole := false
      if search.isDeepFirst then
        let _ ← here
      return isWhole

/-! ## Words of searches -/

/-- What is read of the words of a search: a step, the limits of the depth and
the words behind. -/
structure SearchWords where
  search : FileSearch
  rest : List (List Char)

def wordComplaint (wording : String) (word : List Char) : List Char :=
  wording.toList ++ ' ' :: '\x60' :: word ++ ['\'']

mutual

def parseEither (search : FileSearch) : Nat → List (List Char) → Except (List Char) SearchWords
  | 0, rest => .ok ⟨search, rest⟩
  | bound + 1, words => do
    let left ← parseBoth search bound words
    match left.rest with
    | ['-', 'o'] :: rest =>
      let right ← parseEither left.search bound rest
      return { right with search.step := .either left.search.step right.search.step }
    | _ => return left

def parseBoth (search : FileSearch) : Nat → List (List Char) → Except (List Char) SearchWords
  | 0, rest => .ok ⟨search, rest⟩
  | bound + 1, words => do
    let left ← parseStep search bound words
    match left.rest with
    | [] | ['-', 'o'] :: _ | [')'] :: _ => return left
    | ['-', 'a'] :: rest | rest =>
      let right ← parseBoth left.search bound rest
      return { right with search.step := .both left.search.step right.search.step }

def parseStep (search : FileSearch) : Nat → List (List Char) → Except (List Char) SearchWords
  | 0, rest => .ok ⟨search, rest⟩
  | _, [] => .ok ⟨search, []⟩
  | bound + 1, word :: rest =>
    let single (step : SearchStep) : Except (List Char) SearchWords :=
      .ok ⟨{ search with step := step }, rest⟩
    let given (build : List Char → Except (List Char) FileSearch) :
        Except (List Char) SearchWords :=
      match rest with
      | [] => .error (wordComplaint "missing argument to" word)
      | value :: rest => do return ⟨← build value, rest⟩
    let step (step : SearchStep) : Except (List Char) FileSearch :=
      .ok { search with step := step }
    let number (value : List Char) : Except (List Char) Nat :=
      match (textOf value).toNat? with
      | some number => .ok number
      | none => .error ("Expected a positive decimal integer argument to ".toList ++ word
          ++ ", but got ".toList ++ quoted value)
    match textOf word with
    | "(" => do
      let inner ← parseEither search bound rest
      match inner.rest with
      | [')'] :: rest => return { inner with rest := rest }
      | _ => throw "invalid expression; I was expecting to find a ')' somewhere but did not see one.".toList
    | "!" | "-not" => do
      let inner ← parseStep search bound rest
      return { inner with search.step := .not inner.search.step }
    | "-name" => given fun value => step (.name value false)
    | "-iname" => given fun value => step (.name value true)
    | "-path" | "-wholename" => given fun value => step (.path value)
    | "-type" => given fun value => step (.kind value)
    | "-maxdepth" => given fun value => do
      return { search with step := .always true, most := ← number value }
    | "-mindepth" => given fun value => do
      return { search with step := .always true, least := ← number value }
    | "-depth" => .ok ⟨{ search with step := .always true, isDeepFirst := true }, rest⟩
    | "-empty" => single .empty
    | "-true" => single (.always true)
    | "-false" => single (.always false)
    | "-print" => single (.print '\n')
    | "-print0" => single (.print '\x00')
    | "-delete" => single .erase
    | "-prune" => single .prune
    | "-exec" =>
      let words := rest.takeWhile fun word => word ≠ [';'] && word ≠ ['+']
      match rest.drop words.length with
      | [] => .error (wordComplaint "missing argument to" word)
      | _ :: rest => .ok ⟨{ search with step := .run words }, rest⟩
    | _ =>
      if word.head? = some '-' then .error (wordComplaint "unknown predicate" word)
      else .error (wordComplaint "paths must precede expression:" word)

end

def find : Tool := fun launch call => do
  let isPath (word : List Char) : Bool :=
    !(word.head? = some '-' && 1 < word.length) && word ≠ ['('] && word ≠ ['!']
  let paths := call.arguments.takeWhile isPath
  let words := call.arguments.drop paths.length
  let start : FileSearch := ⟨.always true, 0, maxDepth, false⟩
  let result := if words.isEmpty then .ok ⟨start, []⟩ else
    parseEither start (3 * words.length + 3) words
  match result with
  | .error wording =>
    complain call.program wording
    return 1
  | .ok result =>
    let search := result.search
    let step := search.step
    let search := { search with
      step := if step.acts then step else .both step (.print '\n')
      isDeepFirst := search.isDeepFirst || step.erases }
    let mut status := 0
    for path in if paths.isEmpty then [['.']] else paths do
      if !(← search.visit launch call maxDepth 0 path) then
        status := 1
    return status

end Findings.Simulation.Tool
