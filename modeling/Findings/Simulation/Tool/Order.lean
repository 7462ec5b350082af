import Findings.Simulation.Shell.Format
import Findings.Simulation.Tool.Lines

/-!
Contract: programs about the order of lines and numbers.

Owns:
- sorting lines by keys, and whether lines are sorted;
- repeated lines;
- numbers from one to another.
-/

namespace Findings.Simulation.Tool

/-! ## Keys -/

structure Collation where
  isNumeric : Bool
  /-- Whether numbers may have a letter for a power of a thousand. -/
  hasUnits : Bool
  isVersion : Bool
  isReverse : Bool
  foldsCase : Bool
  skipsBlanks : Bool
  onlyWords : Bool

namespace Collation

def plain : Collation := ⟨false, false, false, false, false, false, false⟩

def withLetter (collation : Collation) (letter : Char) : Collation :=
  match letter with
  | 'n' | 'g' => { collation with isNumeric := true }
  | 'h' => { collation with isNumeric := true, hasUnits := true }
  | 'V' => { collation with isVersion := true }
  | 'r' => { collation with isReverse := true }
  | 'f' => { collation with foldsCase := true }
  | 'b' => { collation with skipsBlanks := true }
  | 'd' => { collation with onlyWords := true }
  | _ => collation

end Collation

/-- A part of a line by which lines are sorted: from a field and a character of it up
to another one, all counted from zero on. -/
structure SortKey where
  field : Nat
  skipped : Nat
  /-- The last field and the number of its characters; none means all of them. -/
  last : Option (Nat × Nat)
  collation : Collation
  /-- Whether the key has an order of its own. -/
  hasCollation : Bool

def leadingDigits (text : List Char) : Nat × List Char :=
  let digits := text.takeWhile Char.isDigit
  (digits.foldl (fun value c => value * 10 + (c.toNat - '0'.toNat)) 0, text.drop digits.length)

def sortKey? (text : List Char) : Except (List Char) SortKey := do
  let invalid (wording : String) : List Char :=
    (wording ++ ": invalid field specification ").toList ++ quoted text
  let isLetter (c : Char) : Bool := "bdfghinrVMR".toList.contains c
  let (field, rest) := leadingDigits text
  if (text.head?.map Char.isDigit) ≠ some true then
    throw ("invalid number at field start".toList ++ ": invalid field specification ".toList
      ++ quoted text)
  if field = 0 then
    throw (invalid "field number is zero")
  let (skipped, rest) ← match rest with
    | '.' :: rest =>
      let (place, rest) := leadingDigits rest
      if place = 0 then throw (invalid "character offset is zero") else pure (place - 1, rest)
    | rest => pure (0, rest)
  let letters := rest.takeWhile isLetter
  let rest := rest.drop letters.length
  match rest with
  | [] =>
    return ⟨field - 1, skipped, none, letters.foldl Collation.withLetter Collation.plain,
      !letters.isEmpty⟩
  | ',' :: rest =>
    let (last, rest) := leadingDigits rest
    if last = 0 then
      throw (invalid "field number is zero")
    let (count, rest) := match rest with
      | '.' :: rest => leadingDigits rest
      | rest => (0, rest)
    let more := rest.takeWhile isLetter
    if !(rest.drop more.length).isEmpty then
      throw (invalid "stray character in field spec")
    return ⟨field - 1, skipped, some (last - 1, count),
      (letters ++ more).foldl Collation.withLetter Collation.plain, !(letters ++ more).isEmpty⟩
  | _ => throw (invalid "stray character in field spec")

def fieldStart (border : Option Char) (line : List Char) : (field : Nat) → (place : Nat) → Nat
  | 0, place => place
  | field + 1, place =>
    let rest := line.drop place
    match border with
    | some border =>
      let size := (rest.takeWhile (· ≠ border)).length
      fieldStart (some border) line field (min line.length (place + size + 1))
    | none =>
      let blanks := (rest.takeWhile isBlankOctet).length
      let size := ((rest.drop blanks).takeWhile fun c => !isBlankOctet c).length
      fieldStart none line field (place + blanks + size)

def SortKey.part (border : Option Char) (line : List Char) (key : SortKey) : List Char :=
  let blanksAt (place : Nat) : Nat :=
    if key.collation.skipsBlanks then ((line.drop place).takeWhile isBlankOctet).length else 0
  let start := fieldStart border line key.field 0
  let start := min line.length (start + blanksAt start + key.skipped)
  let stop := match key.last with
    | none => line.length
    | some (last, 0) =>
      let stop := fieldStart border line (last + 1) 0
      -- The border behind the last field is no part of it.
      if border.isSome && stop ≤ line.length && 0 < stop && (line.drop (stop - 1)).head? = border then
        stop - 1
      else stop
    | some (last, count) =>
      let place := fieldStart border line last 0
      min line.length (place + blanksAt place + count)
  (line.take stop).drop start

/-! ## Comparing -/

/-- A number at the front of a text: its sign, its whole digits without zeros in
front, and its places without zeros behind. -/
def numberAt (text : List Char) : Bool × List Char × List Char × List Char :=
  let text := text.dropWhile isBlankOctet
  let isNegative := text.head? = some '-'
  let text := if isNegative then text.tail else text
  let whole := text.takeWhile Char.isDigit
  let rest := text.drop whole.length
  let part := if rest.head? = some '.' then rest.tail.takeWhile Char.isDigit else []
  let behind := if rest.head? = some '.' then rest.drop (part.length + 1) else rest
  let part := (part.reverse.dropWhile (· = '0')).reverse
  (isNegative, whole.dropWhile (· = '0'), part, behind)

/-- The rank of a letter for a power of a thousand. -/
def unitRank (text : List Char) : Nat :=
  match text.head? with
  | some 'k' | some 'K' => 1
  | some 'M' => 2
  | some 'G' => 3
  | some 'T' => 4
  | some 'P' => 5
  | some 'E' => 6
  | _ => 0

def compareNumbers (hasUnits : Bool) (left right : List Char) : Ordering :=
  let (leftNegative, leftWhole, leftPart, leftRest) := numberAt left
  let (rightNegative, rightWhole, rightPart, rightRest) := numberAt right
  let isZero (whole part : List Char) : Bool := whole.isEmpty && part.isEmpty
  let leftSign : Int := if isZero leftWhole leftPart then 0 else if leftNegative then -1 else 1
  let rightSign : Int := if isZero rightWhole rightPart then 0 else if rightNegative then -1 else 1
  let size :=
    (if hasUnits then compare (unitRank leftRest) (unitRank rightRest) else .eq).then
      ((compare leftWhole.length rightWhole.length).then
        ((compare leftWhole rightWhole).then (compare leftPart rightPart)))
  (compare leftSign rightSign).then (if leftSign < 0 then size.swap else size)

/-- A run of characters that are not digits, in which a tilde comes before everything
and letters before all else. -/
def versionRank (c : Char) : Nat :=
  if c = '~' then 0 else if c.isAlpha then c.toNat + 1 else c.toNat + 256

/-- Compares texts in which digits count as numbers. -/
def compareVersions : Nat → List Char → List Char → Ordering
  | 0, left, right => compare left right
  | bound + 1, left, right =>
    if left.isEmpty || right.isEmpty then
      compare (left.map versionRank) (right.map versionRank)
    else
      let leftText := left.takeWhile fun c => !c.isDigit
      let rightText := right.takeWhile fun c => !c.isDigit
      let (leftNumber, leftRest) := leadingDigits (left.drop leftText.length)
      let (rightNumber, rightRest) := leadingDigits (right.drop rightText.length)
      (compare (leftText.map versionRank) (rightText.map versionRank)).then
        ((compare leftNumber rightNumber).then (compareVersions bound leftRest rightRest))

def Collation.compare (collation : Collation) (left right : List Char) : Ordering :=
  let shown (text : List Char) : List Char :=
    let text := if collation.onlyWords then
        text.filter fun c => c.isAlphanum || isBlankOctet c
      else text
    if collation.foldsCase then text.map Char.toUpper else text
  let result :=
    if collation.isNumeric then compareNumbers collation.hasUnits left right
    else if collation.isVersion then compareVersions (left.length + 1) left right
    else Ord.compare (shown left) (shown right)
  if collation.isReverse then result.swap else result

/-! ## Sorting -/

def sort : Tool := fun _ call => do
  let program := call.program
  let forms : List OptionForm := [
    ⟨'b', "ignore-leading-blanks", .never⟩, ⟨'c', "check", .maybe⟩, ⟨'C', "", .never⟩,
    ⟨'d', "dictionary-order", .never⟩, ⟨'f', "ignore-case", .never⟩,
    ⟨'g', "general-numeric-sort", .never⟩, ⟨'h', "human-numeric-sort", .never⟩,
    ⟨'i', "ignore-nonprinting", .never⟩, ⟨'k', "key", .always⟩, ⟨'m', "merge", .never⟩,
    ⟨'M', "month-sort", .never⟩, ⟨'n', "numeric-sort", .never⟩, ⟨'o', "output", .always⟩,
    ⟨'r', "reverse", .never⟩, ⟨'s', "stable", .never⟩, ⟨'S', "buffer-size", .always⟩,
    ⟨'t', "field-separator", .always⟩, ⟨'T', "temporary-directory", .always⟩,
    ⟨'u', "unique", .never⟩, ⟨'V', "version-sort", .never⟩, ⟨'z', "zero-terminated", .never⟩]
  let arguments ← argumentsOf program 2 forms false call.arguments
  let letters := arguments.options.map GivenOption.letter
  let usual := letters.foldl Collation.withLetter Collation.plain
  let mut keys : List SortKey := []
  for option in arguments.options do
    if option.letter = 'k' then
      match sortKey? (option.value.getD []) with
      | .ok key =>
        keys := keys ++ [if key.hasCollation then key else { key with collation := usual }]
      | .error wording =>
        complain program wording
        Action.exit 2
  if keys.isEmpty then
    keys := [⟨0, 0, none, usual, true⟩]
  let border ← match arguments.valueOf? 't' with
    | none => pure none
    | some ['\\', '0'] => pure (some '\x00')
    | some [c] => pure (some c)
    | some [] => do
      complain program "empty tab".toList
      Action.exit 2
    | some text => do
      complain program ("multi-character tab ".toList ++ quoted text)
      Action.exit 2
  let compareKeys (left right : List Char) : Ordering :=
    keys.foldl
      (fun result key =>
        result.then (key.collation.compare (key.part border left) (key.part border right)))
      .eq
  let isUnique := letters.contains 'u'
  let compareLines (left right : List Char) : Ordering :=
    let result := compareKeys left right
    if isUnique || letters.contains 's' then result
    else
      let plain := Ord.compare left right
      result.then (if letters.contains 'r' then plain.swap else plain)
  let operands := if arguments.operands.isEmpty then [['-']] else arguments.operands
  let mut texts : List (List (List Char)) := []
  for operand in operands do
    match ← withInput operand Action.readAll with
    | .ok (.ok text) => texts := texts ++ [linesOf text]
    | .ok (.error fault) =>
      complain program ("read failed: ".toList ++ shownName operand ++ ": ".toList ++ fault.wording.toList)
      Action.exit 2
    | .error fault =>
      complain program ("cannot read: ".toList ++ shownName operand ++ ": ".toList ++ fault.wording.toList)
      Action.exit 2
  let lines := texts.flatten
  if letters.contains 'c' || letters.contains 'C' then
    let isDisordered (left right : List Char) : Bool :=
      match compareLines left right with
      | .gt => true
      | .eq => isUnique
      | .lt => false
    let pairs := (List.range lines.length).zip (lines.zip lines.tail)
    match pairs.find? fun pair => isDisordered pair.2.1 pair.2.2 with
    | none => return 0
    | some (index, _, line) =>
      if letters.contains 'c' then
        complain program (operands.headD [] ++ ':' :: Nat.toDigits 10 (index + 2)
          ++ ": disorder: ".toList ++ line)
      return 1
  else
    let sorted := lines.mergeSort fun left right => compareLines left right != .gt
    let kept := if isUnique then
        (sorted.foldl
          (fun (kept : List (List Char)) line =>
            if kept.head?.any fun last => compareKeys last line == .eq then kept else line :: kept)
          []).reverse
      else sorted
    match arguments.valueOf? 'o' with
    | none => put program (linesText kept)
    | some path =>
      match ← Action.openPath (textOf path) .write with
      | .ok channel =>
        Action.changeSelf (·.connect 1 (some channel))
        put program (linesText kept)
      | .error fault =>
        complain program ("open failed: ".toList ++ shownName path ++ ": ".toList ++ fault.wording.toList)
        Action.exit 2
    return 0

/-! ## Repeated lines -/

/-- Lines that are the same as those behind them, as groups. -/
def groupsOf (isSame : List Char → List Char → Bool) (lines : List (List Char)) :
    List (List Char × Nat) :=
  (lines.foldl
    (fun (groups : List (List Char × Nat)) line =>
      match groups with
      | (first, count) :: more =>
        if isSame first line then (first, count + 1) :: more
        else (line, 1) :: (first, count) :: more
      | [] => [(line, 1)])
    []).reverse

def uniq : Tool := fun _ call => do
  let program := call.program
  let forms : List OptionForm := [
    ⟨'c', "count", .never⟩, ⟨'d', "repeated", .never⟩, ⟨'D', "all-repeated", .maybe⟩,
    ⟨'f', "skip-fields", .always⟩, ⟨'i', "ignore-case", .never⟩, ⟨'s', "skip-chars", .always⟩,
    ⟨'u', "unique", .never⟩, ⟨'w', "check-chars", .always⟩, ⟨'z', "zero-terminated", .never⟩]
  let arguments ← argumentsOf program 1 forms false call.arguments
  match arguments.operands[2]? with
  | some operand => refuse program 1 ("extra operand ".toList ++ quoted operand)
  | none => pure ()
  let size? (letter : Char) : Option Nat := (arguments.valueOf? letter).bind sizeOf?
  let skipField (text : List Char) : List Char :=
    ((text.dropWhile isBlankOctet)).dropWhile fun c => !isBlankOctet c
  let view (line : List Char) : List Char :=
    let line := Nat.repeat skipField ((size? 'f').getD 0) line
    let line := line.drop ((size? 's').getD 0)
    let line := match size? 'w' with
      | some size => line.take size
      | none => line
    if arguments.has 'i' then line.map Char.toUpper else line
  let operand := arguments.operands.headD ['-']
  match ← readInput operand with
  | .error fault =>
    complainOf program operand fault
    return 1
  | .ok text =>
    match arguments.operands[1]? with
    | none | some ['-'] => pure ()
    | some path =>
      match ← Action.openPath (textOf path) .write with
      | .ok channel => Action.changeSelf (·.connect 1 (some channel))
      | .error fault =>
        complainOf program path fault
        Action.exit 1
    let groups := groupsOf (fun left right => view left == view right) (linesOf text)
    let isShown (count : Nat) : Bool :=
      (!arguments.has 'd' && !arguments.has 'D' || 1 < count) && (!arguments.has 'u' || count = 1)
    let shown := (groups.filter fun group => isShown group.2).map fun (line, count) =>
      if arguments.has 'c' then padded 7 count ++ ' ' :: line else line
    put program (linesText shown)
    return 0

/-! ## Numbers -/

structure PlaceNumber where
  /-- The number without its point. -/
  digits : Int
  places : Nat
  /-- How much room the number takes as it is written. -/
  width : Nat

def placeNumber? (text : List Char) : Option PlaceNumber :=
  let isNegative := text.head? = some '-'
  let unsigned := if isNegative || text.head? = some '+' then text.tail else text
  let whole := unsigned.takeWhile Char.isDigit
  let rest := unsigned.drop whole.length
  let part := if rest.head? = some '.' then rest.tail.takeWhile Char.isDigit else []
  let rest := if rest.head? = some '.' then rest.drop (part.length + 1) else rest
  let value (digits : List Char) : Nat :=
    digits.foldl (fun value c => value * 10 + (c.toNat - '0'.toNat)) 0
  let signed (n : Nat) : Int := if isNegative then -n else n
  let width := text.length - (if text.head? = some '+' then 1 else 0)
  if whole.isEmpty && part.isEmpty then
    none
  else
    match rest with
    | [] => some ⟨signed (value (whole ++ part)), part.length, width⟩
    | 'x' :: digits | 'X' :: digits =>
      if whole = ['0'] && part.isEmpty && !digits.isEmpty
          && digits.all (fun c => (Decimal.digitOf? 16 c).isSome) then
        some ⟨signed (digits.foldl
          (fun value c => value * 16 + (Decimal.digitOf? 16 c).getD 0) 0), 0, width⟩
      else none
    | 'e' :: exponent | 'E' :: exponent =>
      let isBelow := exponent.head? = some '-'
      let digits := if isBelow || exponent.head? = some '+' then exponent.tail else exponent
      if digits.isEmpty || !digits.all Char.isDigit then none
      else
        let power := value digits
        let mantissa := value (whole ++ part)
        if isBelow then some ⟨signed mantissa, part.length + power, width⟩
        else
          let more := power - part.length
          some ⟨signed (mantissa * Nat.pow 10 more), part.length - power, width⟩
    | _ => none

/-- The digits of a number with more places than it has. -/
def PlaceNumber.scaled (number : PlaceNumber) (places : Nat) : Int :=
  number.digits * Nat.pow 10 (places - number.places)

/-- The text of a number with places, with zeros in front of it up to a width. -/
def placeText (places width : Nat) (digits : Int) : List Char :=
  let text := Nat.toDigits 10 digits.natAbs
  let text := List.replicate (places + 1 - text.length) '0' ++ text
  let whole := text.take (text.length - places)
  let shown := if places = 0 then whole else whole ++ '.' :: text.drop whole.length
  let sign := if digits < 0 then ['-'] else []
  sign ++ List.replicate (width - shown.length - sign.length) '0' ++ shown

/-- Whether a word of the command line is an option rather than a number below
zero. -/
def isNumberWord (word : List Char) : Bool :=
  match word with
  | '-' :: c :: _ => c.isDigit || c = '.'
  | _ => false

/-- Writes the numbers from one to another, a step apart. -/
def seq : Tool := fun _ call => do
  let program := call.program
  let forms : List OptionForm := [
    ⟨'f', "format", .always⟩, ⟨'s', "separator", .always⟩, ⟨'w', "equal-width", .never⟩]
  -- A number below zero ends the options.
  let words := call.arguments
  let options := words.takeWhile fun word => !isNumberWord word
  let isSeparate := !options.contains ['-', '-']
  let words := if isSeparate then options ++ (if options.length < words.length then
      ['-', '-'] :: words.drop options.length else []) else words
  let arguments ← argumentsOf program 1 forms true words
  let operands := arguments.operands.filter (· ≠ ['-', '-'])
  match operands with
  | [] => refuseWords program 1 "missing operand"
  | _ :: _ :: _ :: extra :: _ => refuse program 1 ("extra operand ".toList ++ quoted extra)
  | _ => pure ()
  let mut numbers : List PlaceNumber := []
  for operand in operands do
    match placeNumber? operand with
    | some number => numbers := numbers ++ [number]
    | none => refuse program 1 ("invalid floating point argument: ".toList ++ quoted operand)
  let one : PlaceNumber := ⟨1, 0, 1⟩
  let (first, step, last) := match numbers with
    | [last] => (one, one, last)
    | [first, last] => (first, one, last)
    | [first, step, last] => (first, step, last)
    | _ => (one, one, one)
  if step.digits = 0 then
    refuse program 1 ("invalid Zero increment value: ".toList ++ quoted ((operands[1]?).getD []))
  let places := max first.places step.places
  let scale := max places last.places
  let (start, pace, stop) := (first.scaled scale, step.scaled scale, last.scaled scale)
  let count : Nat :=
    if 0 < pace then (if stop < start then 0 else ((stop - start) / pace).toNat + 1)
    else (if start < stop then 0 else ((start - stop) / (-pace)).toNat + 1)
  let roomOf (number : PlaceNumber) : Nat :=
    let whole := number.width - (if number.places = 0 then 0 else number.places + 1)
    whole + (if places = 0 then 0 else places + 1)
  let width := if arguments.has 'w' then max (roomOf first) (roomOf last) else 0
  let text (index : Nat) : List Char :=
    let value := (start + pace * (index : Int)) / Nat.pow 10 (scale - places)
    let plain := placeText places width value
    match arguments.valueOf? 'f' with
    | some format => (Shell.formatted format [placeText places 0 value]).printed.reverse
    | none => plain
  let separator := (arguments.valueOf? 's').getD ['\n']
  if 0 < count then
    put program (List.intercalate separator ((List.range count).map text) ++ ['\n'])
  return 0

end Findings.Simulation.Tool
