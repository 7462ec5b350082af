import Findings.Simulation.Tool.Copy

/-!
Contract: programs that count, cut and change lines and octets.

Owns:
- counting lines, words and octets;
- octets in place of other octets;
- parts of lines, lines side by side, numbered, turned round and folded;
- octets as numbers.
-/

namespace Findings.Simulation.Tool

/-- Whether an octet is a blank or the end of a line. -/
def isBlankOctet (c : Char) : Bool :=
  c == ' ' || ('\t' ≤ c && c ≤ '\r')

/-- Complains, and ends a program that was given wrong words; a hint follows. -/
def refuseWords {α : Type} (program : String) (status : Nat) (wording : String) : Action α :=
  refuse program status wording.toList

/-! ## Counting -/

structure TextCounts where
  lines : Nat
  words : Nat
  octets : Nat
  width : Nat

namespace TextCounts

def zero : TextCounts := ⟨0, 0, 0, 0⟩

def add (left right : TextCounts) : TextCounts :=
  ⟨left.lines + right.lines, left.words + right.words, left.octets + right.octets,
    max left.width right.width⟩

def ofText (text : List Char) : TextCounts :=
  let words := (text.foldl
    (fun (count, isInside) c =>
      if isBlankOctet c then (count, false)
      else (if isInside then count else count + 1, true))
    ((0 : Nat), false)).1
  ⟨text.count '\n', words, text.length, ((linesOf text).map List.length).foldl max 0⟩

end TextCounts

/-- The number of octets of an input, if it is known from the start. -/
def knownSize (operand : List Char) (machine : Machine) : Option (Option Nat) :=
  if operand = ['-'] then
    match machine.channel? 0 with
    | some (.file number) =>
      (machine.files.lookup number).map fun file =>
        some ((machine.contentOf file).toOption.getD []).length
    | some _ => some none
    | none => none
  else
    match machine.world.find (textOf operand) with
    | .ok (.file content _) => some (some content.length)
    | .ok _ => some none
    | .error _ => none

/-- Digits behind as many blanks as a width asks for. -/
def padded (width n : Nat) : List Char :=
  let digits := Nat.toDigits 10 n
  List.replicate (width - digits.length) ' ' ++ digits

def countWidth (sizes : List (Option (Option Nat))) : Nat :=
  let least := if sizes.any (· = some none) then 7 else 1
  let total := (sizes.filterMap Option.join).foldl (· + ·) 0
  max least (Nat.toDigits 10 total).length

def wc : Tool := fun _ call => do
  let program := call.program
  let forms : List OptionForm := [
    ⟨'c', "bytes", .never⟩, ⟨'m', "chars", .never⟩, ⟨'l', "lines", .never⟩,
    ⟨'w', "words", .never⟩, ⟨'L', "max-line-length", .never⟩]
  let arguments ← argumentsOf program 1 forms false call.arguments
  let operands := if arguments.operands.isEmpty then [['-']] else arguments.operands
  let isUsual := arguments.options.isEmpty
  let wants (letter : Char) : Bool := arguments.has letter || (isUsual && "lwc".toList.contains letter)
  let kinds := ("lwmcL".toList.filter wants).length
  let sizes ← operands.mapM fun operand => Action.observe (knownSize operand)
  let width := if operands.length = 1 && kinds = 1 then 1 else countWidth sizes
  let line (counts : TextCounts) (name : List Char) : List Char :=
    let numbers :=
      (if wants 'l' then [counts.lines] else []) ++ (if wants 'w' then [counts.words] else [])
        ++ (if wants 'm' then [counts.octets] else []) ++ (if wants 'c' then [counts.octets] else [])
        ++ (if wants 'L' then [counts.width] else [])
    List.intercalate [' '] (numbers.map (padded width))
      ++ (if name.isEmpty then [] else ' ' :: name) ++ ['\n']
  let mut total := TextCounts.zero
  let mut status := 0
  for operand in operands do
    let name := if arguments.operands.isEmpty then [] else operand
    let countInput (descriptor : Nat) : Action (TextCounts × Option SystemFault) := do
      match ← Action.readAll descriptor with
      | .ok text => return (TextCounts.ofText text, none)
      | .error fault => return (TextCounts.zero, some fault)
    match ← withInput operand countInput with
    | .ok (counts, fault) =>
      match fault with
      | some fault =>
        let shown := if name.isEmpty then "standard input".toList else operand
        complainOf program shown fault
        status := 1
      | none => pure ()
      total := total.add counts
      put program (line counts name)
    | .error fault =>
      complainOf program operand fault
      status := 1
  if 1 < operands.length then
    put program (line total "total".toList)
  return status

/-! ## Octets in place of octets -/

inductive SetPart where
  | octets (octets : List Char)
  /-- An octet a number of times; without one, as often as it takes. -/
  | repetition (c : Char) (count : Option Nat)

def classOctets (name : String) : Option (List Char) :=
  let all := (List.range 256).map Char.ofNat
  let isPunctuation (c : Char) : Bool := '!' ≤ c && c ≤ '~' && !c.isAlphanum
  let isMember? : Option (Char → Bool) := match name with
    | "alnum" => some Char.isAlphanum
    | "alpha" => some Char.isAlpha
    | "blank" => some fun c => c == ' ' || c == '\t'
    | "cntrl" => some fun c => c.toNat < 32 || c.toNat == 127
    | "digit" => some Char.isDigit
    | "graph" => some fun c => '!' ≤ c && c ≤ '~'
    | "lower" => some Char.isLower
    | "print" => some fun c => ' ' ≤ c && c ≤ '~'
    | "punct" => some isPunctuation
    | "space" => some isBlankOctet
    | "upper" => some Char.isUpper
    | "xdigit" => some fun c => c.isDigit || ('a' ≤ c.toLower && c.toLower ≤ 'f')
    | _ => none
  isMember?.map fun isMember => all.filter isMember

/-- The characters of a set, with their escapes read; an escaped one stands for
itself. -/
def setCharacters : Nat → List Char → List (Char × Bool)
  | 0, _ | _, [] => []
  | bound + 1, '\\' :: rest =>
    let digits := (rest.take 3).takeWhile fun c => '0' ≤ c && c ≤ '7'
    let value (digits : List Char) : Nat :=
      digits.foldl (fun value c => value * 8 + (c.toNat - '0'.toNat)) 0
    let digits := if 255 < value digits then digits.dropLast else digits
    if !digits.isEmpty then
      (Char.ofNat (value digits), true) :: setCharacters bound (rest.drop digits.length)
    else
      match rest with
      | [] => [('\\', true)]
      | c :: rest =>
        let octet := match c with
          | 'a' => '\x07'
          | 'b' => '\x08'
          | 'f' => '\x0c'
          | 'n' => '\n'
          | 'r' => '\r'
          | 't' => '\t'
          | 'v' => '\x0b'
          | c => c
        (octet, true) :: setCharacters bound rest
  | bound + 1, c :: rest => (c, false) :: setCharacters bound rest

/-- A character of a set as it is shown in a complaint. -/
def shownOctet (c : Char) : List Char :=
  [c]

def setParts : Nat → List (Char × Bool) → Except (List Char) (List SetPart)
  | 0, _ | _, [] => .ok []
  | bound + 1, characters => do
    let plain (text : String) : Bool :=
      (characters.take text.length).map Prod.fst = text.toList
        && (characters.take text.length).all fun c => !c.2
    if plain "[:" then
      let name := (characters.drop 2).takeWhile fun c => c.1 ≠ ':'
      if ((characters.drop (2 + name.length)).take 2).map Prod.fst = [':', ']'] then
        match classOctets (textOf (name.map Prod.fst)) with
        | some octets =>
          return .octets octets :: (← setParts bound (characters.drop (4 + name.length)))
        | none => throw ("invalid character class ".toList ++ quoted (name.map Prod.fst))
    match characters with
    | ('[', false) :: ('=', false) :: (c, _) :: ('=', false) :: (']', false) :: rest =>
      return .octets [c] :: (← setParts bound rest)
    | ('[', false) :: (c, _) :: ('*', false) :: rest =>
      let digits := rest.takeWhile fun c => c.1.isDigit
      if ((rest.drop digits.length).head?.map Prod.fst) = some ']' then
        let base := if (digits.head?.map Prod.fst) = some '0' then 8 else 10
        let count := digits.foldl (fun value c => value * base + (c.1.toNat - '0'.toNat)) 0
        return .repetition c (if count = 0 then none else some count)
          :: (← setParts bound (rest.drop (digits.length + 1)))
      else
        return .octets ['['] :: (← setParts bound characters.tail)
    | (first, _) :: ('-', false) :: (last, _) :: rest =>
      if last < first then
        throw ("range-endpoints of ".toList ++ quoted (shownOctet first ++ '-' :: shownOctet last)
          ++ " are in reverse collating sequence order".toList)
      else
        let octets := (List.range (last.toNat - first.toNat + 1)).map fun n =>
          Char.ofNat (first.toNat + n)
        return .octets octets :: (← setParts bound rest)
    | (c, _) :: rest => return .octets [c] :: (← setParts bound rest)
    | [] => return []

/-- The parts of the text of a set; a program ends if there is something wrong with
it. -/
def setOf (program : String) (text : List Char) : Action (List SetPart) := do
  match setParts (text.length + 1) (setCharacters (text.length + 1) text) with
  | .ok parts => return parts
  | .error wording =>
    complain program wording
    Action.exit 1

/-- The octets of a set, where what is repeated as often as it takes fills up to a
size. -/
def setOctets (size : Nat) (parts : List SetPart) : List Char :=
  let fixed := (parts.map fun part =>
    match part with
    | .octets octets => octets.length
    | .repetition _ count => count.getD 0).foldl (· + ·) 0
  parts.flatMap fun part =>
    match part with
    | .octets octets => octets
    | .repetition c count => List.replicate (count.getD (size - fixed)) c

/-- Drops octets of some kind that stand behind the same octet. -/
def squeezed (isSqueezed : Char → Bool) (before : Option Char) (text : List Char) :
    List Char × Option Char :=
  let (kept, last) := text.foldl
    (fun (kept, last) c =>
      if last = some c && isSqueezed c then (kept, last) else (c :: kept, some c))
    (([] : List Char), before)
  (kept.reverse, last)

/-- Puts octets in place of others, drops some, or writes repeated ones once. -/
def tr : Tool := fun _ call => do
  let program := call.program
  let forms : List OptionForm := [
    ⟨'c', "complement", .never⟩, ⟨'C', "", .never⟩, ⟨'d', "delete", .never⟩,
    ⟨'s', "squeeze-repeats", .never⟩, ⟨'t', "truncate-set1", .never⟩]
  -- Options come in front of all sets.
  let arguments ← argumentsOf program 1 forms true call.arguments
  let deletes := arguments.has 'd'
  let squeezes := arguments.has 's'
  let operands := arguments.operands
  let fewest := if deletes = squeezes then 2 else 1
  let most := if deletes && !squeezes then 1 else 2
  if operands.isEmpty then
    refuseWords program 1 "missing operand"
  if operands.length < fewest then
    complain program ("missing operand after ".toList ++ quoted (operands.getLastD []))
    let _ ← Action.write 2 (if deletes then
        "Two strings must be given when both deleting and squeezing repeats.\n".toList
      else "Two strings must be given when translating.\n".toList)
    let _ ← Action.write 2 ("Try '".toList ++ program.toList
      ++ " --help' for more information.\n".toList)
    Action.exit 1
  if most < operands.length then
    complain program ("extra operand ".toList ++ quoted ((operands[most]?).getD []))
    if operands.length = 2 then
      let _ ← Action.write 2
        "Only one string may be given when deleting without squeezing repeats.\n".toList
    let _ ← Action.write 2 ("Try '".toList ++ program.toList
      ++ " --help' for more information.\n".toList)
    Action.exit 1
  let firstParts ← setOf program (operands.headD [])
  if firstParts.any fun part => part matches .repetition .. then
    complain program "the [c*] repeat construct may not appear in string1".toList
    Action.exit 1
  let named := setOctets 0 firstParts
  let first := if arguments.has 'c' || arguments.has 'C' then
      ((List.range 256).map Char.ofNat).filter fun c => !named.contains c
    else named
  let secondParts ← match operands[1]? with
    | some text => do pure (some (← setOf program text))
    | none => pure none
  let translates := !deletes && secondParts.isSome
  let second := (secondParts.map (setOctets first.length)).getD []
  if translates && !first.isEmpty && second.isEmpty && !arguments.has 't' then
    complain program "when not truncating set1, string2 must be non-empty".toList
    Action.exit 1
  let filled := if arguments.has 't' then second
    else second ++ List.replicate (first.length - second.length) (second.getLastD ' ')
  let pairs := (first.zip filled).reverse
  let table : Array Char := ((List.range 256).map fun n =>
    (pairs.lookup (Char.ofNat n)).getD (Char.ofNat n)).toArray
  let change (c : Char) : Char := if translates then table.getD c.toNat c else c
  let isDropped (c : Char) : Bool := deletes && first.contains c
  let squeezedOnes := if secondParts.isSome then second else first
  let isSqueezed (c : Char) : Bool := squeezes && squeezedOnes.contains c
  let result ← Action.eachBlock 0
    (fun last block => do
      let changed := (block.filter fun c => !isDropped c).map change
      if squeezes then
        let (kept, last) := squeezed isSqueezed last changed
        put program kept
        return last
      else
        put program changed
        return last)
    (none : Option Char)
  match result with
  | .ok _ => return 0
  | .error fault =>
    complain program ("read error: ".toList ++ fault.wording.toList)
    return 1

/-! ## Parts of lines -/

/-- A range of places, counted from one on, perhaps without an end. -/
structure PlaceRange where
  first : Nat
  last : Option Nat

def isChosen (ranges : List PlaceRange) (place : Nat) : Bool :=
  ranges.any fun range => range.first ≤ place && range.last.all (place ≤ ·)

def splitAt (isBorder : Char → Bool) (text : List Char) : List (List Char) :=
  let (last, parts) := text.foldl
    (fun (part, parts) c =>
      if isBorder c then ([], part.reverse :: parts) else (c :: part, parts))
    (([] : List Char), ([] : List (List Char)))
  (last.reverse :: parts).reverse

/-- The ranges of a list, or what is wrong with it. -/
def rangesOf (isFields : Bool) (text : List Char) : Except (List Char) (List PlaceRange) := do
  let unit := if isFields then "field value" else "byte/character position"
  let invalid (part : List Char) : List Char :=
    ("invalid " ++ unit ++ " ").toList ++ quoted part
  let zero : List Char := (if isFields then "fields are numbered from 1"
    else "byte/character positions are numbered from 1").toList
  let number? (digits : List Char) : Option Nat :=
    if digits.all Char.isDigit then
      some (digits.foldl (fun value c => value * 10 + (c.toNat - '0'.toNat)) 0)
    else none
  let parts := splitAt (fun c => c == ',' || c == ' ' || c == '\t') text
  parts.mapM fun part => do
    match splitAt (· == '-') part with
    | [single] =>
      match number? single with
      | some 0 => throw zero
      | some place => return ⟨place, some place⟩
      | none => throw (invalid part)
    | [first, last] =>
      if first.isEmpty && last.isEmpty then
        throw "invalid range with no endpoint: -".toList
      match number? first, number? last with
      | some start, some stop =>
        if !first.isEmpty && start = 0 then throw zero
        let start := if first.isEmpty then 1 else start
        if last.isEmpty then return ⟨start, none⟩
        else if stop < start then throw "invalid decreasing range".toList
        else return ⟨start, some stop⟩
      | _, _ => throw (invalid part)
    | _ => throw (invalid part)

def cut : Tool := fun _ call => do
  let program := call.program
  let forms : List OptionForm := [
    ⟨'b', "bytes", .always⟩, ⟨'c', "characters", .always⟩, ⟨'d', "delimiter", .always⟩,
    ⟨'f', "fields", .always⟩, ⟨'n', "", .never⟩, ⟨'s', "only-delimited", .never⟩,
    ⟨'C', "complement", .never⟩, ⟨'O', "output-delimiter", .always⟩]
  let arguments ← argumentsOf program 1 forms false call.arguments
  let lists := arguments.options.filter fun option => "bcf".toList.contains option.letter
  match lists with
  | [] => refuseWords program 1 "you must specify a list of bytes, characters, or fields"
  | _ :: _ :: _ => refuseWords program 1 "only one list may be specified"
  | [chosen] =>
    let isFields := chosen.letter = 'f'
    let delimiter := arguments.valueOf? 'd'
    match delimiter with
    | some (_ :: _ :: _) => refuseWords program 1 "the delimiter must be a single character"
    | some _ =>
      if !isFields then
        refuseWords program 1 "an input delimiter may be specified only when operating on fields"
    | none => pure ()
    if arguments.has 's' && !isFields then
      refuseWords program 1
        "suppressing non-delimited lines makes sense\n\tonly when operating on fields"
    let ranges ← match rangesOf isFields (chosen.value.getD []) with
      | .ok ranges => pure ranges
      | .error wording => refuse program 1 wording
    let border := ((delimiter.getD ['\t']).head?).getD '\x00'
    let isWanted (place : Nat) : Bool := isChosen ranges place != arguments.has 'C'
    let between := (arguments.valueOf? 'O').getD (if isFields then [border] else [])
    let cutLine (line : List Char) : List (List Char) :=
      if isFields then
        let parts := splitAt (· == border) line
        if parts.length = 1 then
          if arguments.has 's' then [] else [line]
        else
          let kept := ((List.range parts.length).zip parts).filter fun part => isWanted (part.1 + 1)
          [List.intercalate between (kept.map Prod.snd)]
      else
        let kept := ((List.range line.length).zip line).filter fun octet => isWanted (octet.1 + 1)
        [kept.map Prod.snd]
    let operands := if arguments.operands.isEmpty then [['-']] else arguments.operands
    let mut status := 0
    for operand in operands do
      match ← readInput operand with
      | .ok text => put program (linesText ((linesOf text).flatMap cutLine))
      | .error fault =>
        complainOf program operand fault
        status := 1
    return status

/-! ## Lines side by side -/

/-- The rows of some columns, up to the end of the longest one. -/
def rowsOf (columns : List (List (List Char))) : List (List (List Char)) :=
  let height := (columns.map List.length).foldl max 0
  (List.range height).map fun row => columns.map fun column => (column[row]?).getD []

/-- Cells with delimiters between them, which are used one after the other. -/
def pastedLine (delimiters : List (List Char)) (cells : List (List Char)) : List Char :=
  ((List.range cells.length).zip cells).flatMap fun (place, cell) =>
    (if place = 0 then [] else (delimiters[(place - 1) % delimiters.length]?).getD []) ++ cell

def delimitersOf : List Char → List (List Char)
  | [] => []
  | '\\' :: c :: rest =>
    (match c with
      | 'n' => ['\n']
      | 't' => ['\t']
      | '0' => []
      | c => [c]) :: delimitersOf rest
  | c :: rest => [c] :: delimitersOf rest

/-- The lines of operands, where those that are hyphens share the lines of the
input. -/
def columnsOf (inputs : List (List Char × List (List Char))) : List (List (List Char)) :=
  let hyphens := (inputs.filter (·.1 = ['-'])).length
  let place (index : Nat) : Nat := ((inputs.take index).filter (·.1 = ['-'])).length
  ((List.range inputs.length).zip inputs).map fun (index, operand, lines) =>
    if operand = ['-'] then
      (((List.range lines.length).zip lines).filter fun line =>
        line.1 % hyphens = place index).map Prod.snd
    else lines

def paste : Tool := fun _ call => do
  let program := call.program
  let forms : List OptionForm := [⟨'d', "delimiters", .always⟩, ⟨'s', "serial", .never⟩]
  let arguments ← argumentsOf program 1 forms false call.arguments
  let operands := if arguments.operands.isEmpty then [['-']] else arguments.operands
  let delimiters := delimitersOf ((arguments.valueOf? 'd').getD ['\t'])
  let delimiters := if delimiters.isEmpty then [[]] else delimiters
  let mut inputs : List (List Char × List (List Char)) := []
  let mut shared : Option (List (List Char)) := none
  for operand in operands do
    match operand, shared with
    | ['-'], some lines => inputs := inputs ++ [(operand, lines)]
    | _, _ =>
      match ← readInput operand with
      | .ok text =>
        if operand = ['-'] then
          shared := some (linesOf text)
        inputs := inputs ++ [(operand, linesOf text)]
      | .error fault =>
        complainOf program operand fault
        Action.exit 1
  if arguments.has 's' then
    put program (linesText (inputs.map fun input => pastedLine delimiters input.2))
  else
    put program (linesText ((rowsOf (columnsOf inputs)).map (pastedLine delimiters)))
  return 0

/-! ## Changed lines -/

def eachText (call : ProgramCall) (forms : List OptionForm) (change : Arguments → List Char → List Char) :
    Action Nat := do
  let program := call.program
  let arguments ← argumentsOf program 1 forms false call.arguments
  let operands := if arguments.operands.isEmpty then [['-']] else arguments.operands
  let mut status := 0
  for operand in operands do
    match ← readInput operand with
    | .ok text => put program (change arguments text)
    | .error fault =>
      complainOf program operand fault
      status := 1
  return status

/-- Writes lines with their characters in the opposite order. -/
def rev : Tool := fun _ call =>
  eachText call [] fun _ text =>
    let turned := List.intercalate ['\n'] ((linesOf text).map List.reverse)
    if text.getLast? = some '\n' then turned ++ ['\n'] else turned

def fold : Tool := fun _ call =>
  let forms : List OptionForm :=
    [⟨'b', "bytes", .never⟩, ⟨'s', "spaces", .never⟩, ⟨'w', "width", .always⟩]
  eachText call forms fun arguments text =>
    let width := max 1 (((arguments.valueOf? 'w').bind sizeOf?).getD 80)
    let breakAt (line : List Char) : Nat :=
      let front := line.take width
      let blank := (front.reverse.dropWhile (· ≠ ' ')).length
      if arguments.has 's' && 0 < blank then blank else width
    let rec folded : Nat → List Char → List (List Char)
      | 0, line => [line]
      | bound + 1, line =>
        if line.length ≤ width then [line]
        else line.take (breakAt line) :: folded bound (line.drop (breakAt line))
    let lines := (linesOf text).flatMap fun line => folded line.length line
    let joined := List.intercalate ['\n'] lines
    if text.getLast? = some '\n' then joined ++ ['\n'] else joined

def nl : Tool := fun _ call =>
  let forms : List OptionForm := [
    ⟨'b', "body-numbering", .always⟩, ⟨'s', "number-separator", .always⟩,
    ⟨'w', "number-width", .always⟩, ⟨'v', "starting-line-number", .always⟩]
  eachText call forms fun arguments text =>
    let isAll := arguments.valueOf? 'b' = some ['a']
    let separator := (arguments.valueOf? 's').getD ['\t']
    let width := ((arguments.valueOf? 'w').bind sizeOf?).getD 6
    let first := ((arguments.valueOf? 'v').bind sizeOf?).getD 1
    let (lines, _) := (linesOf text).foldl
      (fun (lines, number) line =>
        if line.isEmpty && !isAll then
          (List.replicate (width + separator.length) ' ' :: lines, number)
        else
          ((padded width number ++ separator ++ line) :: lines, number + 1))
      (([] : List (List Char)), first)
    linesText lines.reverse

/-! ## Octets as numbers -/

structure DumpStyle where
  /-- How many octets one number stands for. -/
  size : Nat
  /-- What a number of octets looks like. -/
  shown : List Char → List Char

/-- A number in a base, with zeros in front of it up to a width. -/
def based (base width n : Nat) : List Char :=
  let digits := Nat.toDigits base n
  List.replicate (width - digits.length) '0' ++ digits

/-- The number of octets, the first of which counts least. -/
def littleEndian (octets : List Char) : Nat :=
  octets.reverse.foldl (fun value c => value * 256 + c.toNat) 0

/-- An octet as a character, or as an escape or a number. -/
def shownCharacter (octets : List Char) : List Char :=
  let shown := match octets with
    | ['\x00'] => ['\\', '0']
    | ['\x07'] => ['\\', 'a']
    | ['\x08'] => ['\\', 'b']
    | ['\x0c'] => ['\\', 'f']
    | ['\n'] => ['\\', 'n']
    | ['\r'] => ['\\', 'r']
    | ['\t'] => ['\\', 't']
    | ['\x0b'] => ['\\', 'v']
    | [c] => if ' ' ≤ c && c ≤ '~' then [c] else based 8 3 c.toNat
    | _ => []
  List.replicate (4 - shown.length) ' ' ++ shown

/-- The style of a letter for numbers and of a size. -/
def dumpStyle (letter : Char) (size : Nat) : DumpStyle :=
  match letter with
  | 'c' => ⟨1, shownCharacter⟩
  | 'x' => ⟨size, fun octets => ' ' :: based 16 (2 * size) (littleEndian octets)⟩
  | 'u' => ⟨size, fun octets =>
      ' ' :: padded (Nat.toDigits 10 (Nat.pow 256 size - 1)).length (littleEndian octets)⟩
  | 'd' => ⟨size, fun octets =>
      let value := littleEndian octets
      let half := Nat.pow 256 size / 2
      let digits := if half ≤ value then '-' :: Nat.toDigits 10 (Nat.pow 256 size - value)
        else Nat.toDigits 10 value
      let width := (Nat.toDigits 10 half).length + 2
      List.replicate (width - digits.length) ' ' ++ digits⟩
  | _ => ⟨size, fun octets =>
      ' ' :: based 8 (Nat.toDigits 8 (Nat.pow 256 size - 1)).length (littleEndian octets)⟩

/-- Pieces of a text of a size, the last of which may be shorter. -/
def chunksOf (size : Nat) (text : List Char) : List (List Char) :=
  go (text.length + 1) [] text
where
  /-- The pieces behind those already made, which are given last first. -/
  go : Nat → List (List Char) → List Char → List (List Char)
    | 0, chunks, _ | _, chunks, [] => chunks.reverse
    | bound + 1, chunks, text => go bound (text.take size :: chunks) (text.drop size)

def styleOf? (option : GivenOption) : Option DumpStyle :=
  match option.letter, option.value.getD [] with
  | 'b', _ => some (dumpStyle 'o' 1)
  | 'c', _ => some (dumpStyle 'c' 1)
  | 'd', _ => some (dumpStyle 'u' 2)
  | 'o', _ => some (dumpStyle 'o' 2)
  | 'x', _ => some (dumpStyle 'x' 2)
  | 's', _ => some (dumpStyle 'd' 2)
  | 't', letter :: size =>
    let size := match size with
      | [] => 4
      | ['C'] => 1
      | ['S'] => 2
      | ['I'] => 4
      | ['L'] => 8
      | digits => (sizeOf? digits).getD 4
    some (dumpStyle letter size)
  | _, _ => none

def od : Tool := fun _ call => do
  let program := call.program
  let forms : List OptionForm := [
    ⟨'A', "address-radix", .always⟩, ⟨'t', "format", .always⟩, ⟨'v', "output-duplicates", .never⟩,
    ⟨'N', "read-bytes", .always⟩, ⟨'j', "skip-bytes", .always⟩, ⟨'b', "", .never⟩,
    ⟨'c', "", .never⟩, ⟨'d', "", .never⟩, ⟨'o', "", .never⟩, ⟨'x', "", .never⟩, ⟨'s', "", .never⟩]
  let arguments ← argumentsOf program 1 forms false call.arguments
  let (text, isWhole) ← readInputs program arguments.operands
  let skipped := ((arguments.valueOf? 'j').bind sizeOf?).getD 0
  let text := text.drop skipped
  let text := match (arguments.valueOf? 'N').bind sizeOf? with
    | some count => text.take count
    | none => text
  let styles := arguments.options.filterMap styleOf?
  let styles := if styles.isEmpty then [dumpStyle 'o' 2] else styles
  let address (place : Nat) : List Char :=
    match arguments.valueOf? 'A' with
    | some ['n'] => []
    | some ['d'] => based 10 7 place
    | some ['x'] => based 16 6 place
    | _ => based 8 7 place
  let rows := chunksOf 16 text
  let full (octets : List Char) (size : Nat) : List Char :=
    octets ++ List.replicate (size - octets.length) '\x00'
  let rowText (place : Nat) (row : List Char) : List Char :=
    ((List.range styles.length).zip styles).flatMap fun (index, style) =>
      let start := address place
      (if index = 0 then start else List.replicate start.length ' ')
        ++ ((chunksOf style.size row).flatMap fun octets => style.shown (full octets style.size))
        ++ ['\n']
  let (lines, _, _) := ((List.range rows.length).zip rows).foldl
    (fun (lines, before, isSkipping) (index, row) =>
      if some row = before && row.length = 16 && !arguments.has 'v' then
        (if isSkipping then lines else ['*', '\n'] :: lines, before, true)
      else
        (rowText (skipped + 16 * index) row :: lines, some row, false))
    (([] : List (List Char)), (none : Option (List Char)), false)
  put program lines.reverse.flatten
  let last := address (skipped + text.length)
  put program (if last.isEmpty || (text.isEmpty && !isWhole) then [] else last ++ ['\n'])
  return if isWhole then 0 else 1

end Findings.Simulation.Tool
