import Findings.Files.World
import Findings.Simulation.Machine.Basic
import Findings.Simulation.Shell.Numeral

/-!
Contract: conditions as lists of words.

Owns:
- which words are operators, which depends on what stands around them;
- `evaluate`, the truth of a condition, or the wording of what is wrong with it.

With three words an operator in the middle counts first, with three or four
brackets around the others or an exclamation mark in front of them.

Does not own: the command that a condition is given to.
-/

namespace Findings.Simulation.Shell.Condition

/-! ## Operators -/

inductive Sign where
  | finish
  | operand
  | unary (letter : Char)
  | binary (name : String)
  | not
  | and
  | or
  | leftBracket
  | rightBracket
deriving DecidableEq, Repr

def unaryLetters : List Char :=
  ['r', 'w', 'x', 'e', 'f', 'd', 'c', 'b', 'p', 'u', 'g', 'k', 's', 't', 'z', 'n', 'h', 'L', 'O',
    'G', 'S']

def binaryNames : List String :=
  ["=", "!=", "<", ">", "-eq", "-ne", "-ge", "-gt", "-le", "-lt", "-nt", "-ot", "-ef"]

def operator? (word : List Char) : Option Sign :=
  match word with
  | ['!'] => some .not
  | ['('] => some .leftBracket
  | [')'] => some .rightBracket
  | ['-', 'a'] => some .and
  | ['-', 'o'] => some .or
  | word =>
    let isUnary := match word with
      | ['-', letter] => unaryLetters.contains letter
      | _ => false
    if isUnary then some (.unary (word.getLastD 'n'))
    else if binaryNames.contains (textOf word) then some (.binary (textOf word))
    else none

def isBinary (word : List Char) : Bool :=
  match operator? word with
  | some (.binary _) => true
  | _ => false

/-- What the first of some words is.  An operator of one operand has to have
one, which is no operator of two that has a second one itself. -/
def signOf : List (List Char) → Sign
  | [] => .finish
  | word :: rest =>
    match operator? word with
    | some (.unary letter) =>
      match rest with
      | [] => .operand
      | [_] => .unary letter
      | next :: _ => if isBinary next then .operand else .unary letter
    | some .leftBracket => if rest.isEmpty then .operand else .leftBracket
    | some sign => sign
    | none => .operand

/-! ## Operations -/

def pathTest (world : World) (letter : Char) (path : List Char) : Bool :=
  let path := textOf path
  if letter = 'h' || letter = 'L' then
    match world.resolve false path with
    | .ok location =>
      match world.root.at? location with
      | some (.link _) => true
      | _ => false
    | .error _ => false
  else
    match world.find path with
    | .error _ => false
    | .ok node =>
      match letter, node with
      | 'e', _ | 'r', _ | 'w', _ | 'O', _ | 'G', _ => true
      | 'x', .file _ mode => mode.isExecutable
      | 'x', .folder _ => true
      | 'f', .file .. => true
      | 'd', .folder _ => true
      | 'c', .device _ => true
      | 's', .file content _ => !content.isEmpty
      | 's', .folder _ => true
      | _, _ => false

def illegalNumber (word : List Char) : List Char :=
  "Illegal number: ".toList ++ word

def numberOf (word : List Char) : Except (List Char) Int :=
  match integer? 10 word with
  | some number => .ok number
  | none => .error (illegalNumber word)

def unaryTest (world : World) (letter : Char) (operand : List Char) :
    Except (List Char) Bool :=
  match letter with
  | 'z' => .ok operand.isEmpty
  | 'n' => .ok !operand.isEmpty
  | 't' => (numberOf operand).map fun _ => false
  | _ => .ok (pathTest world letter operand)

def isSamePlace (world : World) (left right : List Char) : Bool :=
  match world.resolve true (textOf left), world.resolve true (textOf right) with
  | .ok left, .ok right => left = right
  | _, _ => false

def binaryTest (world : World) (name : String) (left right : List Char) :
    Except (List Char) Bool := do
  let compare (holds : Int → Int → Bool) : Except (List Char) Bool := do
    let left ← numberOf left
    let right ← numberOf right
    return holds left right
  match name with
  | "=" => return left = right
  | "!=" => return left ≠ right
  | "<" => return left < right
  | ">" => return right < left
  | "-eq" => compare fun a b => a = b
  | "-ne" => compare fun a b => a ≠ b
  | "-ge" => compare fun a b => b ≤ a
  | "-gt" => compare fun a b => b < a
  | "-le" => compare fun a b => a ≤ b
  | "-lt" => compare fun a b => a < b
  | "-ef" => return isSamePlace world left right
  | _ => return false

/-- The wording of an operator without its operand. -/
def missingOperand (operator : List Char) : List Char :=
  operator ++ ": argument expected".toList

/-! ## Evaluation -/

mutual

/-- The truth of conditions of which one has to hold.  The words begin with the
last one that was read, which is `sign`; those that are given back do, too. -/
def disjunction (world : World) : Nat → Sign → List (List Char) →
    Except (List Char) (Bool × List (List Char))
  | 0, _, _ => .error "too many arguments".toList
  | bound + 1, sign, words => do
    let (left, words) ← conjunction world bound sign words
    match signOf (words.drop 1) with
    | .or =>
      let words := words.drop 2
      let (right, words) ← disjunction world bound (signOf words) words
      return (left || right, words)
    | _ => return (left, words)

/-- The truth of conditions of which all have to hold. -/
def conjunction (world : World) : Nat → Sign → List (List Char) →
    Except (List Char) (Bool × List (List Char))
  | 0, _, _ => .error "too many arguments".toList
  | bound + 1, sign, words => do
    let (left, words) ← negation world bound sign words
    match signOf (words.drop 1) with
    | .and =>
      let words := words.drop 2
      let (right, words) ← conjunction world bound (signOf words) words
      return (left && right, words)
    | _ => return (left, words)

/-- The truth of a condition that may not have to hold. -/
def negation (world : World) : Nat → Sign → List (List Char) →
    Except (List Char) (Bool × List (List Char))
  | 0, _, _ => .error "too many arguments".toList
  | bound + 1, .not, words => do
    let sign := signOf (words.drop 1)
    let (truth, words) ←
      negation world bound sign (if sign = .finish then words else words.drop 1)
    return (!truth, words)
  | bound + 1, sign, words => single world bound sign words

def single (world : World) : Nat → Sign → List (List Char) →
    Except (List Char) (Bool × List (List Char))
  | 0, _, _ => .error "too many arguments".toList
  | bound + 1, sign, words =>
    match sign with
    | .finish => .ok (false, words)
    | .leftBracket =>
      let words := words.drop 1
      match signOf words with
      | .rightBracket => .ok (false, words)
      | sign => do
        let (truth, words) ← disjunction world bound sign words
        let words := words.drop 1
        if signOf words = .rightBracket then return (truth, words)
        else throw "closing paren expected".toList
    | .unary letter =>
      match words.drop 1 with
      | [] => .error (missingOperand ['-', letter])
      | operand :: rest => do
        return (← unaryTest world letter operand, operand :: rest)
    | _ =>
      match words with
      | left :: operator :: rest =>
        match signOf (operator :: rest) with
        | .binary name =>
          match rest with
          | [] => .error (missingOperand operator)
          | right :: rest => do
            return (← binaryTest world name left right, right :: rest)
        | _ => .ok (!left.isEmpty, words)
      | [word] => .ok (!word.isEmpty, words)
      | [] => .ok (false, words)

end

/-- The truth of a condition that begins with a sign. -/
def evaluateFrom (world : World) (sign : Sign) (words : List (List Char)) :
    Except (List Char) Bool := do
  let (truth, rest) ← disjunction world (8 * words.length + 16) sign words
  match rest with
  | word :: _ :: _ =>
    throw (if word.isEmpty then "unexpected operator".toList
      else word ++ ": unexpected operator".toList)
  | _ => return truth

def judge (world : World) (isNegated : Bool) (words : List (List Char)) :
    Except (List Char) Bool :=
  let found (sign : Sign) (words : List (List Char)) : Except (List Char) Bool :=
    (evaluateFrom world sign words).map (· != isNegated)
  match words with
  | [] => .ok isNegated
  | first :: rest =>
    let isShort := words.length = 3 || words.length = 4
    if words.length = 3 && (rest.head?.map isBinary).getD false then
      found .operand words
    else if isShort && first = ['('] && words.getLast? = some [')'] then
      found (signOf rest.dropLast) rest.dropLast
    else if isShort && first = ['!'] then
      judge world true rest
    else
      found (signOf words) words

/-- The truth of a condition, or the wording of a fault. -/
def evaluate (world : World) (words : List (List Char)) : Except (List Char) Bool :=
  judge world false words

end Findings.Simulation.Shell.Condition
