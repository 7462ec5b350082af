import Findings.Simulation.Shell.Condition
import Findings.Simulation.Shell.Format
import Findings.Simulation.Order
import Findings.Simulation.Tool.Expression

/-!
Contract: programs about the words that they are given.

Owns:
- programs that only succeed or fail;
- writing words, as they are or by a format;
- conditions;
- the values of expressions of words.
-/

namespace Findings.Simulation.Tool

/-! ## Words -/

def succeed : Tool := fun _ _ => return 0

def fail : Tool := fun _ _ => return 1

/-- A text with its escapes read, and whether more is to be written behind it. -/
def readWordEscapes : Nat → List Char → List Char × Bool
  | 0, _ | _, [] => ([], true)
  | bound + 1, '\\' :: c :: rest =>
    let goOn (octet : Char) (rest : List Char) : List Char × Bool :=
      let (text, goesOn) := readWordEscapes bound rest
      (octet :: text, goesOn)
    let value (base : Nat) (digits : List Char) : Nat :=
      digits.foldl (fun value c => value * base + (Decimal.digitOf? base c).getD 0) 0
    let isOctal (c : Char) : Bool := '0' ≤ c && c ≤ '7'
    let isHexadecimal (c : Char) : Bool := (Decimal.digitOf? 16 c).isSome
    match c with
    | 'a' => goOn '\x07' rest
    | 'b' => goOn '\x08' rest
    | 'c' => ([], false)
    | 'e' => goOn '\x1b' rest
    | 'f' => goOn '\x0c' rest
    | 'n' => goOn '\n' rest
    | 'r' => goOn '\r' rest
    | 't' => goOn '\t' rest
    | 'v' => goOn '\x0b' rest
    | '\\' => goOn '\\' rest
    | 'x' =>
      let digits := (rest.take 2).takeWhile isHexadecimal
      if digits.isEmpty then
        let (text, goesOn) := readWordEscapes bound rest
        ('\\' :: 'x' :: text, goesOn)
      else goOn (Char.ofNat (value 16 digits)) (rest.drop digits.length)
    | '0' =>
      let digits := (rest.take 3).takeWhile isOctal
      goOn (Char.ofNat (value 8 digits % 256)) (rest.drop digits.length)
    | c =>
      if isOctal c then
        let digits := ((c :: rest).take 3).takeWhile isOctal
        goOn (Char.ofNat (value 8 digits % 256)) ((c :: rest).drop digits.length)
      else
        let (text, goesOn) := readWordEscapes bound (c :: rest)
        ('\\' :: text, goesOn)
  | bound + 1, c :: rest =>
    let (text, goesOn) := readWordEscapes bound rest
    (c :: text, goesOn)

def echo : Tool := fun _ call => do
  let isOption (word : List Char) : Bool :=
    match word with
    | '-' :: letters => !letters.isEmpty && letters.all fun c => "neE".toList.contains c
    | _ => false
  let options := call.arguments.takeWhile isOption
  let letters := options.flatMap List.tail
  let text := List.intercalate [' '] (call.arguments.drop options.length)
  let readsEscapes := (letters.reverse.find? fun c => c = 'e' || c = 'E') == some 'e'
  let (text, goesOn) := if readsEscapes then readWordEscapes (text.length + 1) text else (text, true)
  put call.program (if letters.contains 'n' || !goesOn then text else text ++ ['\n'])
  return 0

def printf : Tool := fun _ call => do
  let program := call.program
  match call.arguments with
  | [] => refuse program 1 "missing operand".toList
  | ['-', '-'] :: format :: words | format :: words =>
    let state := Shell.formatted format words
    put program state.printed.reverse
    for (argument, fault) in state.faults do
      let wording := match fault with
        | .noNumber => "expected a numeric value"
        | .notWhole => "value not completely converted"
        | .outOfRange => "Numerical result out of range"
      complain program (quotedName argument ++ ':' :: ' ' :: wording.toList)
    match state.progress with
    | .failed wording =>
      complain program wording
      return 1
    | _ => return if state.faults.isEmpty then 0 else 1

/-! ## Conditions -/

def condition (call : ProgramCall) (words : List (List Char)) : Action Nat := do
  match Shell.Condition.evaluate (← Action.observe Machine.world) words with
  | .ok truth => return if truth then 0 else 1
  | .error wording =>
    complain call.program wording
    return 2

def test : Tool := fun _ call =>
  condition call call.arguments

/-- Tells whether a condition holds that a bracket closes. -/
def bracket : Tool := fun _ call => do
  if call.arguments.getLast? = some [']'] then
    condition call call.arguments.dropLast
  else
    complain call.program ("missing ".toList ++ quoted [']'])
    return 2

/-! ## Values -/

def wholeNumber? (word : List Char) : Option Int :=
  let digits := if word.head? = some '-' then word.tail else word
  if digits.isEmpty || !digits.all Char.isDigit then none
  else
    let value : Nat := digits.foldl (fun value c => value * 10 + (c.toNat - '0'.toNat)) 0
    some (if word.head? = some '-' then -value else value)

def numberWord (n : Int) : List Char :=
  (toString n).toList

def isNull (value : List Char) : Bool :=
  value.isEmpty || wholeNumber? value = some 0

def valueStrength (word : List Char) : Nat :=
  match textOf word with
  | "|" => 1
  | "&" => 2
  | "<" | "<=" | "=" | "==" | "!=" | ">=" | ">" => 3
  | "+" | "-" => 4
  | "*" | "/" | "%" => 5
  | ":" => 6
  | _ => 0

/-- What the front of a text is for an expression: the text of its first group, or
the number of octets. -/
def matchedPart (text pattern : List Char) : Except (List Char) (List Char) := do
  let expression ← (Expression.ofSpelling false pattern).mapError String.toList
  let line := text.toArray
  let hasGroup := readsGroup pattern
  match expression.endAt? false line (fun _ => true) 0 with
  | none => return if hasGroup then [] else ['0']
  | some spot =>
    if hasGroup then return (spot.groupText line 1).getD []
    else return Nat.toDigits 10 spot.place
where
  /-- Whether an expression has a group. -/
  readsGroup : List Char → Bool
    | '\\' :: '(' :: _ => true
    | '\\' :: _ :: rest => readsGroup rest
    | _ :: rest => readsGroup rest
    | [] => false

def operatorValue (operator left right : List Char) : Except (List Char) (List Char) := do
  let name := textOf operator
  let truth (holds : Bool) : List Char := if holds then ['1'] else ['0']
  let compared (numbers : Int → Int → Bool) (texts : List Char → List Char → Bool) : List Char :=
    match wholeNumber? left, wholeNumber? right with
    | some a, some b => truth (numbers a b)
    | _, _ => truth (texts left right)
  let calculated (compute : Int → Int → Except (List Char) Int) :
      Except (List Char) (List Char) :=
    match wholeNumber? left, wholeNumber? right with
    | some a, some b => do return numberWord (← compute a b)
    | _, _ => throw "non-integer argument".toList
  let divided (compute : Int → Int → Int) (a b : Int) : Except (List Char) Int :=
    if b = 0 then throw "division by zero".toList else return compute a b
  match name with
  | "|" => return if isNull left then (if isNull right then ['0'] else right) else left
  | "&" => return if isNull left || isNull right then ['0'] else left
  | "<" => return compared (fun a b => a < b) Text.isBefore
  | "<=" => return compared (fun a b => a ≤ b) Text.notAfter
  | "=" | "==" => return compared (fun a b => a = b) (fun a b => a = b)
  | "!=" => return compared (fun a b => a ≠ b) (fun a b => a ≠ b)
  | ">=" => return compared (fun a b => b ≤ a) fun a b => Text.notAfter b a
  | ">" => return compared (fun a b => b < a) fun a b => Text.isBefore b a
  | "+" => calculated fun a b => return a + b
  | "-" => calculated fun a b => return a - b
  | "*" => calculated fun a b => return a * b
  | "/" => calculated (divided Int.tdiv)
  | "%" => calculated (divided Int.tmod)
  | _ => matchedPart left right

abbrev ValueWords := List Char × List (List Char)

def valueFault (wording : String) : List Char :=
  ("syntax error: " ++ wording).toList

mutual

/-- The value of operators that bind at least as strongly as asked, and the words
behind. -/
def valueOf (before : List Char) : Nat → (strength : Nat) → List (List Char) →
    Except (List Char) ValueWords
  | 0, _, _ => .error (valueFault "too long")
  | bound + 1, strength, words => do
    let (left, rest) ← singleValue before bound words
    moreValue bound strength left rest

def moreValue : Nat → (strength : Nat) → (left : List Char) → List (List Char) →
    Except (List Char) ValueWords
  | 0, _, _, _ => .error (valueFault "too long")
  | bound + 1, strength, left, words =>
    match words with
    | operator :: rest =>
      let own := valueStrength operator
      if own = 0 || own < strength then .ok (left, words)
      else do
        let (right, rest) ← valueOf operator bound (own + 1) rest
        moreValue bound strength (← operatorValue operator left right) rest
    | [] => .ok (left, [])

/-- The value of a word, of a bracket or of a function. -/
def singleValue (before : List Char) : Nat → List (List Char) → Except (List Char) ValueWords
  | 0, _ => .error (valueFault "too long")
  | _, [] => .error ("syntax error: missing argument after ".toList ++ quoted before)
  | bound + 1, word :: rest =>
    match textOf word, rest with
    | "(", rest => do
      let (value, after) ← valueOf word bound 1 rest
      match after with
      | [')'] :: after => return (value, after)
      | [] => throw ("syntax error: expecting ')' after ".toList ++ quoted (rest.getLastD []))
      | next :: _ => throw ("syntax error: expecting ')' instead of ".toList ++ quoted next)
    | ")", _ => .error (valueFault "unexpected ')'")
    | "+", value :: rest => .ok (value, rest)
    | "length", _ :: _ => do
      let (text, rest) ← singleValue word bound rest
      return (Nat.toDigits 10 text.length, rest)
    | "match", _ :: _ => do
      let (text, rest) ← singleValue word bound rest
      let (pattern, rest) ← singleValue text bound rest
      return (← matchedPart text pattern, rest)
    | "index", _ :: _ => do
      let (text, rest) ← singleValue word bound rest
      let (octets, rest) ← singleValue text bound rest
      let place := (text.takeWhile fun c => !octets.contains c).length
      return (Nat.toDigits 10 (if place < text.length then place + 1 else 0), rest)
    | "substr", _ :: _ => do
      let (text, rest) ← singleValue word bound rest
      let (first, rest) ← singleValue text bound rest
      let (size, rest) ← singleValue first bound rest
      match wholeNumber? first, wholeNumber? size with
      | some first, some size =>
        if first ≤ 0 || size ≤ 0 then return ([], rest)
        else return ((text.drop (first.toNat - 1)).take size.toNat, rest)
      | _, _ => return ([], rest)
    | _, _ => .ok (word, rest)

end

def expr : Tool := fun _ call => do
  let program := call.program
  let words := match call.arguments with
    | ['-', '-'] :: words => words
    | words => words
  if words.isEmpty then
    refuse program 2 "missing operand".toList
  match valueOf [] (4 * words.length + 8) 1 words with
  | .ok (value, []) =>
    put program (value ++ ['\n'])
    return if isNull value then 1 else 0
  | .ok (_, word :: _) =>
    complain program ("syntax error: unexpected argument ".toList ++ quoted word)
    return 2
  | .error wording =>
    complain program wording
    return 2

end Findings.Simulation.Tool
