import Findings.Toml.Value

/-!
Contract: TOML scalars, keys and the space around them.

Owns:
- `Reader`, a function on the unread text that refuses without a reason: the
  reason is never reported;
- comments, line ends and the three sorts of space;
- strings of all four forms, and keys;
- numbers, booleans and date-times, read as one word and classified as a
  whole.

A carriage return counts as a line end only before a line feed.
-/

namespace Findings.Toml

/-- Reads a value off the front of the unread text, or refuses. -/
abbrev Reader (α : Type) := StateT (List Char) Option α

namespace Reader

def expect (expected : List Char) : Reader Unit := do
  if expected.isPrefixOf (← get) then
    modify fun text => text.drop expected.length
  else
    failure

/-- Takes the given characters if they come next. -/
def take? (expected : List Char) : Reader Bool := do
  if expected.isPrefixOf (← get) then
    modify fun text => text.drop expected.length
    return true
  else
    return false

end Reader

/-! ## Space -/

def isSpace (c : Char) : Bool :=
  c == ' ' || c == '\t'

/-- A character that may not stand in a comment or a string: a control
character other than the tab. -/
def isControl (c : Char) : Bool :=
  (c < ' ' && c != '\t') || c == '\x7f'

def skipSpace : Reader Unit :=
  modify fun text => text.dropWhile isSpace

def afterLineEnd? : List Char → Option (List Char)
  | '\n' :: rest => some rest
  | '\r' :: '\n' :: rest => some rest
  | _ => none

def skipComment : Reader Unit := do
  if ← Reader.take? ['#'] then
    modify fun text => text.dropWhile fun c => !isControl c

/-- Takes the end of a line or of the text, after space and a comment. -/
def endOfLine : Reader Unit := do
  skipSpace
  skipComment
  let text ← get
  match afterLineEnd? text with
  | some rest => set rest
  | none => if text.isEmpty then return else failure

/-- Takes space, comments and line ends; `bound` limits the lines. -/
def skipLines : Nat → Reader Unit
  | 0 => return
  | bound + 1 => do
    skipSpace
    skipComment
    match afterLineEnd? (← get) with
    | some rest =>
      set rest
      skipLines bound
    | none => return

/-! ## Strings -/

def hexValue? (digits : List Char) : Option Nat :=
  digits.foldlM
    (fun value c =>
      if '0' ≤ c ∧ c ≤ '9' then some (value * 16 + (c.toNat - '0'.toNat))
      else if 'a' ≤ c ∧ c ≤ 'f' then some (value * 16 + (c.toNat - 'a'.toNat + 10))
      else if 'A' ≤ c ∧ c ≤ 'F' then some (value * 16 + (c.toNat - 'A'.toNat + 10))
      else none)
    0

/-- The character of a code point, if it is a scalar value. -/
def scalar? (code : Nat) : Option Char :=
  if code.isValidChar then some (Char.ofNat code) else none

/-- A character read from an escape, and how many characters it took after the
backslash. -/
structure Unescaped where
  char : Char
  taken : Nat
deriving DecidableEq, Repr

def hexEscape (digits : Nat) (text : List Char) : Option Unescaped := do
  if text.length < digits then none
  let value ← hexValue? (text.take digits)
  return ⟨← scalar? value, digits + 1⟩

def unescape : List Char → Option Unescaped
  | 'b' :: _ => some ⟨'\x08', 1⟩
  | 't' :: _ => some ⟨'\t', 1⟩
  | 'n' :: _ => some ⟨'\n', 1⟩
  | 'f' :: _ => some ⟨'\x0c', 1⟩
  | 'r' :: _ => some ⟨'\r', 1⟩
  | 'e' :: _ => some ⟨'\x1b', 1⟩
  | '"' :: _ => some ⟨'"', 1⟩
  | '\\' :: _ => some ⟨'\\', 1⟩
  | 'x' :: digits => hexEscape 2 (digits.take 2)
  | 'u' :: digits => hexEscape 4 (digits.take 4)
  | 'U' :: digits => hexEscape 8 (digits.take 8)
  | _ => none

def dropLines : List Char → List Char
  | '\r' :: '\n' :: rest => dropLines rest
  | c :: rest => if isSpace c || c == '\n' then dropLines rest else c :: rest
  | [] => []

/-- How many characters a backslash at the end of a line takes: the space
before the line end, the line end, and all space and line ends after it. -/
def lineContinuation? (text : List Char) : Option Nat :=
  (afterLineEnd? (text.dropWhile isSpace)).map fun rest =>
    text.length - (dropLines rest).length

/-- The two ways to write a string: with escapes or without. -/
inductive Style where
  | basic
  | literal
deriving DecidableEq, Repr

def Style.quote : Style → Char
  | basic => '"'
  | literal => '\''

/-- The characters of a string on one line, after those already read, which
are given last first. -/
def lineBody (style : Style) (read : List Char) (text : List Char) :
    Option (List Char × List Char) :=
  match text with
  | [] => none
  | c :: rest =>
    if c = style.quote then some (read.reverse, rest)
    else if c = '\\' ∧ style = .basic then
      match unescape rest with
      | none => none
      | some escape => lineBody style (escape.char :: read) (rest.drop escape.taken)
    else if isControl c then none
    else lineBody style (c :: read) rest
termination_by text.length
decreasing_by
  all_goals simp only [List.length_drop, List.length_cons]; omega

/-- The characters of a string of several lines, after those already read,
which are given last first.  Of a run of quotes the first two may belong to the
string, so the string ends after at most five. -/
def linesBody (style : Style) (read : List Char) (text : List Char) :
    Option (List Char × List Char) :=
  match text with
  | [] => none
  | c :: rest =>
    if c = style.quote then
      let run := (text.takeWhile (· == style.quote)).length
      if 3 ≤ run then
        let inside := min run 5 - 3
        some ((List.replicate inside c ++ read).reverse, text.drop (inside + 3))
      else
        linesBody style (c :: read) rest
    else if c = '\\' ∧ style = .basic then
      match lineContinuation? rest with
      | some taken => linesBody style read (rest.drop taken)
      | none =>
        match unescape rest with
        | none => none
        | some escape => linesBody style (escape.char :: read) (rest.drop escape.taken)
    else if c = '\n' then linesBody style (c :: read) rest
    else if c = '\r' then
      if rest.head? = some '\n' then linesBody style (c :: read) rest else none
    else if isControl c then none
    else linesBody style (c :: read) rest
termination_by text.length
decreasing_by
  all_goals simp only [List.length_drop, List.length_cons]; omega

def lineString (style : Style) : Reader String := do
  let (chars, rest) ← lineBody style [] (← get)
  set rest
  return String.ofList chars

/-- Reads a string of several lines whose opening quotes were taken.  A line
end right after them does not belong to it. -/
def linesString (style : Style) : Reader String := do
  let text ← get
  let (chars, rest) ← linesBody style [] ((afterLineEnd? text).getD text)
  set rest
  return String.ofList chars

def string? : Reader (Option String) := do
  if ← Reader.take? ['"', '"', '"'] then
    some <$> linesString .basic
  else if ← Reader.take? ['\'', '\'', '\''] then
    some <$> linesString .literal
  else if ← Reader.take? ['"'] then
    some <$> lineString .basic
  else if ← Reader.take? ['\''] then
    some <$> lineString .literal
  else
    return none

/-! ## Keys -/

/-- A character of a key without quotes: an ASCII letter or digit, a hyphen or
an underscore. -/
def isBare (c : Char) : Bool :=
  c.isAlphanum || c == '-' || c == '_'

def keyPart : Reader String := do
  if ← Reader.take? ['"'] then
    lineString .basic
  else if ← Reader.take? ['\''] then
    lineString .literal
  else
    let text ← get
    let bare := text.takeWhile isBare
    if bare.isEmpty then
      failure
    else
      set (text.drop bare.length)
      return String.ofList bare

/-- The parts of a dotted key after those already read, which are given last
first; space may stand around every part. -/
def keyParts : Nat → List String → Reader (List String)
  | 0, _ => failure
  | bound + 1, read => do
    skipSpace
    let part ← keyPart
    skipSpace
    if ← Reader.take? ['.'] then
      keyParts bound (part :: read)
    else
      return (part :: read).reverse

/-! ## Words -/

/-- Digits with underscores between them, without the underscores. -/
def digitGroups? (isDigit : Char → Bool) : List Char → Option (List Char)
  | [] => none
  | [c] => if isDigit c then some [c] else none
  | c :: '_' :: rest =>
    if isDigit c then (digitGroups? isDigit rest).map (c :: ·) else none
  | c :: rest =>
    if isDigit c then (digitGroups? isDigit rest).map (c :: ·) else none

def valueInBase (base : Nat) (digits : List Char) : Nat :=
  digits.foldl (fun value c => value * base + (hexValue? [c]).getD 0) 0

def isDigitOf (base : Nat) (c : Char) : Bool :=
  (hexValue? [c]).any (· < base)

/-- A decimal number without leading zeros. -/
def decimal? (text : List Char) : Option Nat := do
  let digits ← digitGroups? (isDigitOf 10) text
  if digits.head? = some '0' ∧ digits.length ≠ 1 then none
  else some (valueInBase 10 digits)

/-- A word without its sign, and whether it was a minus. -/
def unsigned : List Char → Bool × List Char
  | '-' :: rest => (true, rest)
  | '+' :: rest => (false, rest)
  | text => (false, text)

/-- An integer: decimal with an optional sign, or in base 16, 8 or 2 without. -/
def integer? (word : List Char) : Option Int :=
  match word with
  | '0' :: 'x' :: digits =>
    (digitGroups? (isDigitOf 16) digits).map fun digits => valueInBase 16 digits
  | '0' :: 'o' :: digits =>
    (digitGroups? (isDigitOf 8) digits).map fun digits => valueInBase 8 digits
  | '0' :: 'b' :: digits =>
    (digitGroups? (isDigitOf 2) digits).map fun digits => valueInBase 2 digits
  | _ =>
    let (negative, magnitude) := unsigned word
    (decimal? magnitude).map fun value => if negative then -(value : Int) else value

def isExponent (text : List Char) : Bool :=
  (digitGroups? (isDigitOf 10) (unsigned text).2).isSome

/-- Whether a word is a float: infinite, not a number, or a decimal number
with a fraction, an exponent or both. -/
def isFloat (word : List Char) : Bool :=
  let magnitude := (unsigned word).2
  let isMark (c : Char) : Bool := c == 'e' || c == 'E'
  let mantissa := magnitude.takeWhile fun c => !isMark c
  let exponent := magnitude.dropWhile fun c => !isMark c
  let whole := mantissa.takeWhile (· != '.')
  let fraction := mantissa.dropWhile (· != '.')
  magnitude == ['i', 'n', 'f'] || magnitude == ['n', 'a', 'n'] ||
    ((decimal? whole).isSome && !(fraction.isEmpty && exponent.isEmpty) &&
      (fraction.isEmpty || (digitGroups? (isDigitOf 10) fraction.tail).isSome) &&
      (exponent.isEmpty || isExponent exponent.tail))

/-- Two digits with a value between two bounds. -/
def isPair (least greatest : Nat) (a b : Char) : Bool :=
  let value := valueInBase 10 [a, b]
  a.isDigit && b.isDigit && least ≤ value && value ≤ greatest

def daysOf (year month : Nat) : Nat :=
  if month = 2 then
    if year % 4 = 0 ∧ (year % 100 ≠ 0 ∨ year % 400 = 0) then 29 else 28
  else if month = 4 ∨ month = 6 ∨ month = 9 ∨ month = 11 then 30
  else 31

def afterDate? : List Char → Option (List Char)
  | y₁ :: y₂ :: y₃ :: y₄ :: '-' :: m₁ :: m₂ :: '-' :: d₁ :: d₂ :: rest =>
    let days := daysOf (valueInBase 10 [y₁, y₂, y₃, y₄]) (valueInBase 10 [m₁, m₂])
    if [y₁, y₂, y₃, y₄].all Char.isDigit ∧ isPair 1 12 m₁ m₂ ∧ isPair 1 days d₁ d₂ then
      some rest
    else none
  | _ => none

/-- The text after a time, if it begins with one; seconds and their fraction
may be left out. -/
def afterTime? : List Char → Option (List Char)
  | h₁ :: h₂ :: ':' :: m₁ :: m₂ :: rest =>
    if isPair 0 23 h₁ h₂ ∧ isPair 0 59 m₁ m₂ then
      match rest with
      | ':' :: s₁ :: s₂ :: rest =>
        if isPair 0 60 s₁ s₂ then
          match rest with
          | '.' :: digits =>
            if digits.head?.any Char.isDigit then some (digits.dropWhile Char.isDigit) else none
          | _ => some rest
        else none
      | _ => some rest
    else none
  | _ => none

def isOffset : List Char → Bool
  | [] | ['Z'] | ['z'] => true
  | [sign, h₁, h₂, ':', m₁, m₂] =>
    (sign == '+' || sign == '-') && isPair 0 23 h₁ h₂ && isPair 0 59 m₁ m₂
  | _ => false

/-- Whether a word is a date, a time, or both with an optional offset. -/
def isDateTime (word : List Char) : Bool :=
  match afterDate? word with
  | some [] => true
  | some (separator :: rest) =>
    (separator == 'T' || separator == 't' || separator == ' ')
      && ((afterTime? rest).any isOffset)
  | none => (afterTime? word).any List.isEmpty

def isWordChar (c : Char) : Bool :=
  isBare c || c == '+' || c == '.' || c == ':'

/-- The word at the front of a text.  A date takes a time along that follows
it after one space. -/
def wordOf (text : List Char) : List Char :=
  let word := text.takeWhile isWordChar
  match afterDate? word, text.drop word.length with
  | some [], ' ' :: rest =>
    let time := rest.takeWhile isWordChar
    if time.head?.any Char.isDigit then word ++ ' ' :: time else word
  | _, _ => word

def word : Reader Value := do
  let text ← get
  let word := wordOf text
  set (text.drop word.length)
  if word = ['t', 'r', 'u', 'e'] then return .boolean true
  else if word = ['f', 'a', 'l', 's', 'e'] then return .boolean false
  else match integer? word with
    | some value => return .integer value
    | none =>
      if isFloat word then return .float (String.ofList word)
      else if isDateTime word then return .dateTime (String.ofList word)
      else failure

end Findings.Toml
