import Findings.Simulation.Tool.Lines

/-!
Contract: regular expressions.

Owns:
- `Expression`, what a text is to look like, in its plain and its extended
  spelling;
- `Expression.find?`, the first place where a text looks like it, and of the
  ends there the last one;
- what the groups of an expression stand for.

Of several ways to the same place only the first one is followed, so the time is
bounded by the size of the expression and of the text.
-/

namespace Findings.Simulation.Tool

/-! ## Expressions -/

inductive Expression where
  | nothing
  | any
  | set (isOpposite : Bool) (octets : List Char)
  | lineStart
  | lineEnd
  | wordStart
  | wordEnd
  /-- The border of a word, or anything but that. -/
  | wordBorder (isOpposite : Bool)
  | group (number : Nat) (inner : Expression)
  /-- The same text as that of a group. -/
  | again (number : Nat)
  | both (left right : Expression)
  | either (left right : Expression)
  | repeated (inner : Expression) (least : Nat) (most : Option Nat)

/-- A place in a text that was reached, with the groups on the way. -/
structure Spot where
  place : Nat
  /-- The starts and ends of groups, by their numbers. -/
  groups : List (Nat × Nat × Nat)

namespace Spot

def groupText (spot : Spot) (text : Array Char) (number : Nat) : Option (List Char) :=
  (spot.groups.lookup number).map fun (first, last) => (text.toList.take last).drop first

end Spot

/-- Spots without those at a place where another one is. -/
def distinctSpots (spots : List Spot) : List Spot :=
  (spots.foldl
    (fun kept spot =>
      if kept.any fun other => other.place = spot.place then kept else spot :: kept)
    []).reverse

def isWordOctet (c : Char) : Bool :=
  c.isAlphanum || c = '_'

/-- Whether a word reaches up to a place, and whether one begins there. -/
def wordSides (text : Array Char) (place : Nat) : Bool × Bool :=
  let isWordAt (index : Nat) : Bool := (text[index]?).any isWordOctet
  (0 < place && isWordAt (place - 1), isWordAt place)

/-- The spots that steps lead to, none of which was seen before, those of more
steps first; the bound is on the number of steps. -/
def spotsWithin (step : Spot → List Spot) : Nat → (seen frontier : List Spot) → List Spot
  | 0, seen, _ => seen
  | bound + 1, seen, frontier =>
    let isNew (spot : Spot) : Bool := !seen.any fun other => other.place = spot.place
    let next := (distinctSpots (frontier.flatMap step)).filter isNew
    if next.isEmpty then seen else spotsWithin step bound (next ++ seen) next

namespace Expression

/-- The spots that an expression leads to from a spot. -/
def spots (ignoresCase : Bool) (text : Array Char) : Expression → Spot → List Spot
  | .nothing, spot => [spot]
  | .any, spot => if spot.place < text.size then [{ spot with place := spot.place + 1 }] else []
  | .set isOpposite octets, spot =>
    match text[spot.place]? with
    | none => []
    | some c =>
      let isIn := octets.contains c
        || (ignoresCase && (octets.contains c.toLower || octets.contains c.toUpper))
      if isIn != isOpposite then [{ spot with place := spot.place + 1 }] else []
  | .lineStart, spot => if spot.place = 0 then [spot] else []
  | .lineEnd, spot => if spot.place = text.size then [spot] else []
  | .wordStart, spot => if wordSides text spot.place = (false, true) then [spot] else []
  | .wordEnd, spot => if wordSides text spot.place = (true, false) then [spot] else []
  | .wordBorder isOpposite, spot =>
    let (before, after) := wordSides text spot.place
    if (before != after) != isOpposite then [spot] else []
  | .group number inner, spot =>
    (inner.spots ignoresCase text spot).map fun reached =>
      { reached with
        groups := (number, spot.place, reached.place) ::
          reached.groups.filter (·.1 ≠ number) }
  | .again number, spot =>
    match spot.groupText text number with
    | none => []
    | some word =>
      let shown := (text.toList.drop spot.place).take word.length
      let isSame := if ignoresCase then shown.map Char.toLower == word.map Char.toLower
        else shown == word
      if isSame then [{ spot with place := spot.place + word.length }] else []
  | .both left right, spot =>
    distinctSpots ((left.spots ignoresCase text spot).flatMap (right.spots ignoresCase text))
  | .either left right, spot =>
    distinctSpots (left.spots ignoresCase text spot ++ right.spots ignoresCase text spot)
  | .repeated inner least most, spot =>
    let step := inner.spots ignoresCase text
    let start := (List.range least).foldl
      (fun spots _ => distinctSpots (spots.flatMap step)) [spot]
    let bound := match most with
      | some most => most - least
      | none => text.size + 1
    spotsWithin step bound start start

/-- The last end of an expression that starts at a place, of the ends that are
good. -/
def endAt? (expression : Expression) (ignoresCase : Bool) (text : Array Char)
    (isGood : Nat → Bool) (place : Nat) : Option Spot :=
  ((expression.spots ignoresCase text ⟨place, []⟩).filter (isGood ·.place)).foldl
    (fun best spot => match best with
      | some other => if other.place < spot.place then some spot else best
      | none => some spot)
    none

/-- The first place from a place on where a text looks like an expression, with the
last good end. -/
def find? (expression : Expression) (ignoresCase : Bool) (text : Array Char)
    (isGood : Nat → Nat → Bool) (first : Nat) : Option (Nat × Spot) :=
  (List.range (text.size + 1 - first)).findSome? fun offset =>
    let place := first + offset
    (expression.endAt? ignoresCase text (isGood place) place).map fun spot => (place, spot)

def ofText (text : List Char) : Expression :=
  text.foldr (fun c rest => .both (.set false [c]) rest) .nothing

end Expression

/-! ## Spellings -/

structure ExpressionText where
  expression : Expression
  rest : List Char
  /-- How many groups there are up to here. -/
  groups : Nat

def octetRange (first last : Char) : List Char :=
  (List.range (last.toNat + 1 - first.toNat)).map fun offset => Char.ofNat (first.toNat + offset)

/-- Reads the members of a set up to the bracket that closes it. -/
def setMembers : Nat → (isFirst : Bool) → List Char → Except String (List Char × List Char)
  | 0, _, _ | _, _, [] => .error "Unmatched [, [^, [:, [., or [="
  | bound + 1, isFirst, c :: rest => do
    if c = ']' && !isFirst then
      return ([], rest)
    else if c = '[' && rest.head? = some ':' then
      let name := rest.tail.takeWhile (· ≠ ':')
      match rest.tail.drop name.length, classOctets (String.ofList name) with
      | ':' :: ']' :: rest, some octets => do
        let (members, rest) ← setMembers bound false rest
        return (octets ++ members, rest)
      | ':' :: ']' :: _, none => throw "Invalid character class name"
      | _, _ => throw "Unmatched [, [^, [:, [., or [="
    else
      match rest with
      | '-' :: last :: after =>
        if last = ']' then
          let (members, rest) ← setMembers bound false rest
          return (c :: members, rest)
        else if last < c then
          throw "Invalid range end"
        else
          let (members, rest) ← setMembers bound false after
          return (octetRange c last ++ members, rest)
      | rest =>
        let (members, rest) ← setMembers bound false rest
        return (c :: members, rest)

def wordOctets : List Char :=
  ((List.range 256).map Char.ofNat).filter isWordOctet

def blankOctets : List Char :=
  ((List.range 256).map Char.ofNat).filter isBlankOctet

/-- What a letter behind a backslash stands for, other than itself. -/
def escapedExpression? (c : Char) : Option Expression :=
  match c with
  | 'w' => some (.set false wordOctets)
  | 'W' => some (.set true wordOctets)
  | 's' => some (.set false blankOctets)
  | 'S' => some (.set true blankOctets)
  | '<' => some .wordStart
  | '>' => some .wordEnd
  | 'b' => some (.wordBorder false)
  | 'B' => some (.wordBorder true)
  | '\x60' => some .lineStart
  | '\'' => some .lineEnd
  | _ => none

/-- Reads the limits of a repetition up to the brace that closes it. -/
def repetitionLimits? (isExtended : Bool) (text : List Char) :
    Option (Nat × Option Nat × List Char) :=
  let number (digits : List Char) : Nat :=
    digits.foldl (fun value c => value * 10 + (c.toNat - '0'.toNat)) 0
  let least := text.takeWhile Char.isDigit
  let rest := text.drop least.length
  let close? (rest : List Char) : Option (List Char) :=
    match rest, isExtended with
    | '\x7d' :: rest, true => some rest
    | '\\' :: '\x7d' :: rest, false => some rest
    | _, _ => none
  match rest with
  | ',' :: rest =>
    let most := rest.takeWhile Char.isDigit
    (close? (rest.drop most.length)).map fun rest =>
      (number least, if most.isEmpty then none else some (number most), rest)
  | rest =>
    if least.isEmpty then none
    else (close? rest).map fun rest => (number least, some (number least), rest)

/-- Reads what says how often an expression is repeated. -/
def repetitionsOf (isExtended : Bool) : Nat → Expression → List Char → Expression × List Char
  | 0, expression, rest => (expression, rest)
  | bound + 1, expression, rest =>
    let goOn (least : Nat) (most : Option Nat) (rest : List Char) : Expression × List Char :=
      repetitionsOf isExtended bound (.repeated expression least most) rest
    match rest, isExtended with
    | '*' :: rest, _ => goOn 0 none rest
    | '+' :: rest, true | '\\' :: '+' :: rest, false => goOn 1 none rest
    | '?' :: rest, true | '\\' :: '?' :: rest, false => goOn 0 (some 1) rest
    | '\x7b' :: inner, true | '\\' :: '\x7b' :: inner, false =>
      match repetitionLimits? isExtended inner with
      | some (least, most, rest) => goOn least most rest
      | none => (expression, rest)
    | rest, _ => (expression, rest)

/-- Whether the text is at the end of a branch of an expression. -/
def endsBranch (isExtended : Bool) (rest : List Char) : Bool :=
  match rest, isExtended with
  | [], _ | ')' :: _, true | '|' :: _, true | '\\' :: ')' :: _, false | '\\' :: '|' :: _, false =>
    true
  | _, _ => false

mutual

def parseBranches (isExtended : Bool) (groups : Nat) :
    Nat → List Char → Except String ExpressionText
  | 0, _ => .error "Regular expression too big"
  | bound + 1, text => do
    let left ← parseBranch isExtended groups true bound text
    let more? : Option (List Char) := match left.rest, isExtended with
      | '|' :: rest, true | '\\' :: '|' :: rest, false => some rest
      | _, _ => none
    match more? with
    | none => return left
    | some rest =>
      let right ← parseBranches isExtended left.groups bound rest
      return { right with expression := .either left.expression right.expression }

/-- Reads pieces that are to be seen one after the other. -/
def parseBranch (isExtended : Bool) (groups : Nat) (isFirst : Bool) :
    Nat → List Char → Except String ExpressionText
  | 0, _ => .error "Regular expression too big"
  | bound + 1, text => do
    if endsBranch isExtended text then
      return ⟨.nothing, text, groups⟩
    else
      let piece ← parsePiece isExtended groups isFirst bound text
      let (expression, rest) := match piece.expression, isExtended with
        | .lineStart, false => (piece.expression, piece.rest)
        | _, _ => repetitionsOf isExtended piece.rest.length piece.expression piece.rest
      let isStillFirst := isFirst && (expression matches .lineStart)
      let more ← parseBranch isExtended piece.groups isStillFirst bound rest
      return { more with expression := .both expression more.expression }

def parsePiece (isExtended : Bool) (groups : Nat) (isFirst : Bool) :
    Nat → List Char → Except String ExpressionText
  | 0, _ | _, [] => .error "Regular expression too big"
  | bound + 1, c :: rest => do
    let plain (expression : Expression) (rest : List Char) : Except String ExpressionText :=
      return ⟨expression, rest, groups⟩
    let grouped (rest : List Char) : Except String ExpressionText := do
      let inner ← parseBranches isExtended (groups + 1) bound rest
      match inner.rest, isExtended with
      | ')' :: rest, true | '\\' :: ')' :: rest, false =>
        return { inner with expression := .group (groups + 1) inner.expression, rest := rest }
      | _, _ => throw "Unmatched ( or \\("
    if c = '.' then plain .any rest
    else if c = '[' then
      let (isOpposite, inner) := match rest with
        | '^' :: inner => (true, inner)
        | inner => (false, inner)
      let (members, rest) ← setMembers (inner.length + 1) true inner
      plain (.set isOpposite members) rest
    else if c = '^' && (isExtended || isFirst) then plain .lineStart rest
    else if c = '$' && (isExtended || endsBranch isExtended rest) then plain .lineEnd rest
    else if c = '(' && isExtended then grouped rest
    else if c = '\\' then
      match rest with
      | [] => throw "Trailing backslash"
      | '(' :: inner => if isExtended then plain (.set false ['(']) inner else grouped inner
      | '\x7b' :: inner =>
        if isExtended then plain (.set false ['\x7b']) inner
        else throw "Invalid preceding regular expression"
      | c :: rest =>
        if '1' ≤ c && c ≤ '9' then
          let number := c.toNat - '0'.toNat
          if groups < number then throw "Invalid back reference" else plain (.again number) rest
        else
          match escapedExpression? c with
          | some expression => plain expression rest
          | none => plain (.set false [c]) rest
    else plain (.set false [c]) rest

end

/-- The expression that a text spells, or what is wrong with it. -/
def Expression.ofSpelling (isExtended : Bool) (text : List Char) : Except String Expression := do
  let parsed ← parseBranches isExtended 0 (4 * text.length + 8) text
  match parsed.rest, isExtended with
  | [], _ => return parsed.expression
  | _, _ => throw "Unmatched ) or \\)"

end Findings.Simulation.Tool
