import Findings.Simulation.Shell.Printed
import Findings.Simulation.Shell.Numeral

/-!
Contract: texts that a script prints.

Owns:
- the escapes behind a backslash, with up to three octal digits for an octet;
- `echoText`, words with spaces between them, in which escapes count;
- `formatted`, a format that is used again while there are arguments, with the
  complaints about arguments that are no numbers and about the format.

Does not own: where the text goes.
-/

namespace Findings.Simulation.Shell

/-! ## Escapes -/

def isOctal (c : Char) : Bool :=
  '0' ≤ c && c ≤ '7'

def octalOctet (digits : List Char) : Char :=
  Char.ofNat (digitsValue 8 digits % 256)

def escapeLetter? : Char → Option Char
  | '\\' => some '\\'
  | 'a' => some '\x07'
  | 'b' => some '\x08'
  | 'e' => some '\x1b'
  | 'f' => some '\x0c'
  | 'n' => some '\n'
  | 'r' => some '\r'
  | 't' => some '\t'
  | 'v' => some '\x0b'
  | _ => none

/-- The octet of what follows a backslash, with what is left.  A backslash in
front of anything else stands for itself. -/
def escapeAt (text : List Char) : Char × List Char :=
  let digits := (text.take 3).takeWhile isOctal
  if !digits.isEmpty then
    (octalOctet digits, text.drop digits.length)
  else
    match text with
    | c :: rest =>
      match escapeLetter? c with
      | some octet => (octet, rest)
      | none => ('\\', text)
    | [] => ('\\', [])

/-- A text with its escapes read, and whether it goes on behind it.  An octal
number may have a zero more in front. -/
def readEscapes : Nat → List Char → List Char → List Char × Bool
  | 0, read, _ => (read.reverse, true)
  | _ + 1, read, [] => (read.reverse, true)
  | bound + 1, read, c :: rest =>
    if c = '\\' then
      match rest with
      | 'c' :: _ => (read.reverse, false)
      | '0' :: d :: more =>
        let (octet, after) := escapeAt (if isOctal d then d :: more else rest)
        readEscapes bound (octet :: read) after
      | _ =>
        let (octet, after) := escapeAt rest
        readEscapes bound (octet :: read) after
    else
      readEscapes bound (c :: read) rest

def spaced (words : List (List Char)) : List Char :=
  List.intercalate [' '] words

/-- What is printed for words; without the end of the line if the first one
says so. -/
def echoText (words : List (List Char)) : List Char :=
  let (noEnd, words) := match words with
    | ['-', 'n'] :: words => (true, words)
    | words => (false, words)
  let text := spaced words
  let (text, goesOn) := readEscapes (text.length + 1) [] text
  if noEnd || !goesOn then text else text ++ ['\n']

/-! ## Directives -/

structure Directive where
  flags : List Char
  width : Nat
  precision : Option Nat

namespace Directive

def has (directive : Directive) (flag : Char) : Bool :=
  directive.flags.contains flag

def fill (directive : Directive) (text : List Char) : List Char :=
  let gap := List.replicate (directive.width - text.length) ' '
  if directive.has '-' then text ++ gap else gap ++ text

/-- A text cut off at the precision of a directive and filled up. -/
def fillText (directive : Directive) (text : List Char) : List Char :=
  directive.fill (match directive.precision with
    | some length => text.take length
    | none => text)

/-- Digits behind what stands in front of them, filled up, with zeros between
both where that is allowed. -/
def fillDigits (directive : Directive) (mayBeZeros : Bool) (before digits : List Char) :
    List Char :=
  if directive.has '0' && !directive.has '-' && mayBeZeros then
    before ++ List.replicate (directive.width - before.length - digits.length) '0' ++ digits
  else
    directive.fill (before ++ digits)

/-- What stands in front of a number that may be less than zero. -/
def signText (directive : Directive) (isNegative : Bool) : List Char :=
  if isNegative then ['-']
  else if directive.has '+' then ['+']
  else if directive.has ' ' then [' ']
  else []

/-- The digits of a number, as many as a directive asks for at least. -/
def digits (directive : Directive) (base n : Nat) : List Char :=
  let written := if n = 0 && directive.precision = some 0 then [] else Nat.toDigits base n
  List.replicate (directive.precision.getD 0 - written.length) '0' ++ written

def signedText (directive : Directive) (n : Int) : List Char :=
  directive.fillDigits directive.precision.isNone (directive.signText (n < 0))
    (directive.digits 10 n.natAbs)

/-- A number without a sign; `letter` says how it is written. -/
def wordText (directive : Directive) (letter : Char) (n : Nat) : List Char :=
  let mayBeZeros := directive.precision.isNone
  match letter with
  | 'o' =>
    let digits := directive.digits 8 n
    let digits := if directive.has '#' && digits.head? ≠ some '0' then '0' :: digits else digits
    directive.fillDigits mayBeZeros [] digits
  | 'x' | 'X' =>
    let before := if directive.has '#' && n ≠ 0 then ['0', 'x'] else []
    let text := directive.fillDigits mayBeZeros before (directive.digits 16 n)
    if letter = 'X' then text.map Char.toUpper else text
  | _ => directive.fillDigits mayBeZeros [] (directive.digits 10 n)

/-- A number that need not be whole; `letter` says how it is written. -/
def extendedText (directive : Directive) (letter : Char) (x : Decimal.Extended) : List Char :=
  let keepsPoint := directive.has '#'
  let text := match x with
    | .finite isNegative magnitude =>
      let digits := match letter.toLower with
        | 'e' => Decimal.scientificText magnitude (directive.precision.getD 6) keepsPoint
        | 'f' => Decimal.fixedText magnitude (directive.precision.getD 6) keepsPoint
        | 'g' => Decimal.generalText magnitude (directive.precision.getD 6) keepsPoint
        | _ => Decimal.hexadecimalText magnitude directive.precision keepsPoint
      let sign := directive.signText isNegative
      let before := if letter.toLower = 'a' then sign ++ ['0', 'x'] else sign
      directive.fillDigits true before digits
    | .infinite isNegative => directive.fill (directive.signText isNegative ++ ['i', 'n', 'f'])
    | .undefined isNegative => directive.fill (directive.signText isNegative ++ ['n', 'a', 'n'])
  if letter.isUpper then text.map Char.toUpper else text

end Directive

/-! ## Formats -/

inductive Progress where
  | goesOn
  /-- Nothing more is printed. -/
  | stopped
  /-- The format is wrong. -/
  | failed (wording : List Char)
deriving DecidableEq, Repr

/-- Why an argument is not the number that it should be. -/
inductive NumberFault where
  | noNumber
  /-- There is something behind the number. -/
  | notWhole
  | outOfRange
deriving DecidableEq, Repr

structure Formatted where
  /-- What was printed, last first. -/
  printed : List Char
  arguments : List (List Char)
  /-- Whether an argument was asked for and was there. -/
  isUsed : Bool
  progress : Progress
  /-- The arguments that are wrong. -/
  faults : List (List Char × NumberFault)

namespace Formatted

def add (state : Formatted) (text : List Char) : Formatted :=
  { state with printed := text.reverse ++ state.printed }

def next (state : Formatted) : Option (List Char) × Formatted :=
  match state.arguments with
  | argument :: arguments => (some argument, { state with arguments := arguments, isUsed := true })
  | [] => (none, state)

def complain (state : Formatted) (argument : List Char) (fault : NumberFault) : Formatted :=
  { state with faults := state.faults ++ [(argument, fault)] }

/-- Complains about an argument that is no number as a whole. -/
def checkRest (state : Formatted) (argument : List Char) (rest : Option (List Char))
    (isOutOfRange : Bool) : Formatted :=
  match rest with
  | none => if argument.isEmpty then state else state.complain argument .noNumber
  | some (_ :: _) => state.complain argument .notWhole
  | some [] =>
    if isOutOfRange then state.complain argument .outOfRange else state

/-- The number that the next argument is: the code of the character behind a
quote, or what `read` makes of it. -/
def nextNumber {α : Type} (state : Formatted) (zero : α) (ofCode : Nat → α)
    (read : List Char → Option (α × List Char × Bool)) : α × Formatted :=
  match state.next with
  | (none, state) => (zero, state)
  | (some argument, state) =>
    match argument with
    | '\'' :: rest | '"' :: rest => (ofCode ((rest.head?.map Char.toNat).getD 0), state)
    | _ =>
      match read argument with
      | some (value, rest, isOutOfRange) =>
        (value, state.checkRest argument (some rest) isOutOfRange)
      | none => (zero, state.checkRest argument none false)

def nextInteger (state : Formatted) : Int × Formatted :=
  state.nextNumber 0 (fun code => (code : Int)) fun argument =>
    (leadingNumber? 0 argument).map fun number =>
      (number.clamped, number.rest, number.isOutOfRange)

def nextWord (state : Formatted) : Nat × Formatted :=
  state.nextNumber 0 id fun argument =>
    (leadingNumber? 0 argument).map fun number => (number.word, number.rest, number.isTooLong)

/-- The next argument as a number that need not be whole. -/
def nextExtended (state : Formatted) : Decimal.Extended × Formatted :=
  let zero : Decimal.Extended := .ofFloat false 0
  state.nextNumber zero (fun code => .ofFloat false code.toFloat) fun argument =>
    (Decimal.readNumber? (argument.dropWhile isSpace)).map fun (value, rest) =>
      (value, rest, false)

/-- Reads a size of a directive: digits, or an argument for an asterisk. -/
def sizeAt (state : Formatted) (text : List Char) : Option Int × List Char × Formatted :=
  match text with
  | '*' :: rest =>
    let (size, state) := state.nextInteger
    (some size, rest, state)
  | text =>
    let digits := text.takeWhile Char.isDigit
    let size := if digits.isEmpty then none else some (digitsValue 10 digits : Int)
    (size, text.drop digits.length, state)

/-- Reads a directive behind its percent sign, up to its letter. -/
def directiveAt (state : Formatted) (text : List Char) : Directive × List Char × Formatted :=
  let flags := text.takeWhile (['-', '0', '+', ' ', '#'].contains ·)
  let (width, rest, state) := state.sizeAt (text.drop flags.length)
  let (precision, rest, state) := match rest with
    | '.' :: rest =>
      let (precision, rest, state) := state.sizeAt rest
      (some (precision.getD 0), rest, state)
    | rest => (none, rest, state)
  let width := width.getD 0
  let directive : Directive := {
    flags := if width < 0 then '-' :: flags else flags
    width := width.natAbs
    precision := match precision with
      | some precision => if precision < 0 then none else some precision.toNat
      | none => none }
  (directive, rest, state)

/-- Prints what a directive of a letter asks for; `text` is the directive. -/
def carryOut (state : Formatted) (directive : Directive) (letter : Char) (text : List Char) :
    Formatted :=
  match letter with
  | 's' =>
    let (argument, state) := state.next
    state.add (directive.fillText (argument.getD []))
  | 'b' =>
    let (argument, state) := state.next
    let argument := argument.getD []
    let (text, goesOn) := readEscapes (argument.length + 1) [] argument
    let state := state.add (directive.fillText text)
    if goesOn then state else { state with progress := .stopped }
  | 'c' =>
    let (argument, state) := state.next
    state.add (directive.fill [(argument.getD []).headD '\x00'])
  | 'd' | 'i' =>
    let (value, state) := state.nextInteger
    state.add (directive.signedText value)
  | 'o' | 'u' | 'x' | 'X' =>
    let (value, state) := state.nextWord
    state.add (directive.wordText letter value)
  | 'a' | 'A' | 'e' | 'E' | 'f' | 'F' | 'g' | 'G' =>
    let (value, state) := state.nextExtended
    state.add (directive.extendedText letter value)
  | _ => { state with progress := .failed (text ++ ": invalid directive".toList) }

def goThrough : Nat → List Char → Formatted → Formatted
  | 0, _, state => state
  | _ + 1, [], state => state
  | bound + 1, c :: rest, state =>
    if c = '\\' then
      let (octet, after) := escapeAt rest
      goThrough bound after (state.add [octet])
    else if c = '%' then
      match rest with
      | '%' :: rest => goThrough bound rest (state.add ['%'])
      | _ =>
        let (directive, after, state) := state.directiveAt rest
        match after with
        | [] => { state with progress := .failed "missing format character".toList }
        | letter :: after =>
          let text := '%' :: rest.take (rest.length - after.length)
          let state := state.carryOut directive letter text
          if state.progress = .goesOn then goThrough bound after state else state
    else
      goThrough bound rest (state.add [c])

/-- Goes through a format again while it uses up arguments. -/
def goThroughAll (format : List Char) : Nat → Formatted → Formatted
  | 0, state => state
  | bound + 1, state =>
    let state := goThrough (format.length + 1) format { state with isUsed := false }
    if state.progress = .goesOn && state.isUsed && !state.arguments.isEmpty then
      goThroughAll format bound state
    else
      state

end Formatted

def formatted (format : List Char) (arguments : List (List Char)) : Formatted :=
  Formatted.goThroughAll format (arguments.length + 1) ⟨[], arguments, false, .goesOn, []⟩

end Findings.Simulation.Shell
