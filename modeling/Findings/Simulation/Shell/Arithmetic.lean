import Findings.Simulation.Shell.Numeral
import Findings.Simulation.Shell.State

/-!
Contract: arithmetic inside a script.

Owns:
- the tokens of an expression;
- `evaluate`, the value of an expression over numbers of 64 bits, which may
  give values to variables;
- the wording of what is wrong with an expression.

Operators of one level go from left to right, but choices and the giving of
values go from right to left.  An operand that does not count is read and not
evaluated.
-/

namespace Findings.Simulation.Shell.Arithmetic

/-! ## Tokens -/

inductive Operator where
  | multiply
  | divide
  | remainder
  | add
  | subtract
  | shiftLeft
  | shiftRight
  | less
  | lessEqual
  | greater
  | greaterEqual
  | equal
  | notEqual
  | andBits
  | xorBits
  | orBits
deriving DecidableEq, Repr

def Operator.level : Operator → Nat
  | multiply | divide | remainder => 0
  | add | subtract => 1
  | shiftLeft | shiftRight => 2
  | less | lessEqual | greater | greaterEqual => 3
  | equal | notEqual => 4
  | andBits => 5
  | xorBits => 6
  | orBits => 7

/-- A level that is looser than those of all operators. -/
def loosestLevel : Nat := 8

inductive Sign where
  | number (value : Int)
  | name (name : List Char)
  | operator (operator : Operator)
  /-- Giving a value to a name, perhaps together with an operator. -/
  | assign (operator : Option Operator)
  | and
  | or
  | not
  | complement
  | leftBracket
  | rightBracket
  | question
  | colon
  /-- No token. -/
  | bad
deriving DecidableEq, Repr

/-- The signs with their wordings, longer ones first. -/
def signs : List (String × Sign) := [
  ("<<=", .assign (some .shiftLeft)), (">>=", .assign (some .shiftRight)),
  ("<<", .operator .shiftLeft), (">>", .operator .shiftRight),
  ("<=", .operator .lessEqual), (">=", .operator .greaterEqual),
  ("==", .operator .equal), ("!=", .operator .notEqual),
  ("||", .or), ("&&", .and),
  ("*=", .assign (some .multiply)), ("/=", .assign (some .divide)),
  ("%=", .assign (some .remainder)), ("+=", .assign (some .add)),
  ("-=", .assign (some .subtract)), ("&=", .assign (some .andBits)),
  ("^=", .assign (some .xorBits)), ("|=", .assign (some .orBits)),
  ("=", .assign none), ("<", .operator .less), (">", .operator .greater),
  ("*", .operator .multiply), ("/", .operator .divide), ("%", .operator .remainder),
  ("+", .operator .add), ("-", .operator .subtract), ("&", .operator .andBits),
  ("^", .operator .xorBits), ("|", .operator .orBits), ("!", .not), ("~", .complement),
  ("(", .leftBracket), (")", .rightBracket), ("?", .question), (":", .colon)]

/-- The tokens of an expression, up to the first character that cannot be
one. -/
def signsOf : Nat → List Char → List Sign
  | 0, _ => []
  | _ + 1, [] => []
  | bound + 1, c :: rest =>
    if c = ' ' || c = '\t' || c = '\n' then
      signsOf bound rest
    else if c.isDigit then
      match leadingNumber? 0 (c :: rest) with
      | some number => .number number.clamped :: signsOf bound number.rest
      | none => [.bad]
    else if isNameStart c then
      let name := (c :: rest).takeWhile isNameChar
      .name name :: signsOf bound ((c :: rest).drop name.length)
    else
      match signs.find? fun entry => entry.1.toList.isPrefixOf (c :: rest) with
      | some (wording, sign) => sign :: signsOf bound ((c :: rest).drop wording.length)
      | none => [.bad]

/-! ## Values -/

def truth (condition : Bool) : Int :=
  if condition then 1 else 0

def bits (n : Int) : Nat :=
  (n % wordCount).toNat

def shiftSize (n : Int) : Nat :=
  (n % 64).toNat

/-- The value of an operation; dividing by zero has none. -/
def operate (operator : Operator) (a b : Int) : Option Int :=
  match operator with
  | .multiply => some (wrapped (a * b))
  | .divide => if b = 0 then none else some (a.tdiv b)
  | .remainder => if b = 0 then none else some (a.tmod b)
  | .add => some (wrapped (a + b))
  | .subtract => some (wrapped (a - b))
  | .shiftLeft => some (wrapped (a * Nat.pow 2 (shiftSize b)))
  | .shiftRight => some (a / Nat.pow 2 (shiftSize b))
  | .less => some (truth (a < b))
  | .lessEqual => some (truth (a ≤ b))
  | .greater => some (truth (b < a))
  | .greaterEqual => some (truth (b ≤ a))
  | .equal => some (truth (a = b))
  | .notEqual => some (truth (a ≠ b))
  | .andBits => some (wrapped (bits a &&& bits b))
  | .xorBits => some (wrapped (bits a ^^^ bits b))
  | .orBits => some (wrapped (bits a ||| bits b))

/-! ## Evaluation -/

/-- An expression that is evaluated: its text, for complaints. -/
abbrev Evaluation (α : Type) := ReaderT (List Char) Script α

def refuse {α : Type} (wording : String) : Evaluation α := do
  let text ← read
  Script.failOf ("arithmetic expression: ".toList ++ wording.toList ++ ": \"".toList ++ text
    ++ ['"']) 2

def valueOf (name : List Char) : Evaluation Int := do
  let value := ((← get).valueOf? name).getD []
  match valueNumber? value with
  | some number => return number
  | none => Script.failOf ("Illegal number: ".toList ++ value) 2

/-- The signal that ends a process whose division has no value that fits. -/
def divisionSignal : Nat := 8

def calculate (operator : Operator) (a b : Int) : Evaluation Int := do
  let isDivision := operator = .divide || operator = .remainder
  if isDivision && a = least && b = -1 then
    (Action.finish (.killed divisionSignal) : Action Unit)
  match operate operator a b with
  | some value => return value
  | none => refuse "division by zero"

mutual

def operand : Nat → (counts : Bool) → List Sign → Evaluation (Int × List Sign)
  | 0, _, _ => refuse "expecting primary"
  | bound + 1, counts, .leftBracket :: rest => do
    let (value, rest) ← assignment bound counts rest
    match rest with
    | .rightBracket :: rest => return (value, rest)
    | _ => refuse "expecting ')'"
  | _ + 1, _, .number value :: rest => return (value, rest)
  | _ + 1, counts, .name name :: rest => do
    let value ← if counts then valueOf name else pure 0
    return (value, rest)
  | bound + 1, counts, .operator .add :: rest => operand bound counts rest
  | bound + 1, counts, .operator .subtract :: rest => do
    let (value, rest) ← operand bound counts rest
    return (wrapped (-value), rest)
  | bound + 1, counts, .not :: rest => do
    let (value, rest) ← operand bound counts rest
    return (truth (value = 0), rest)
  | bound + 1, counts, .complement :: rest => do
    let (value, rest) ← operand bound counts rest
    return (wrapped (-value - 1), rest)
  | _ + 1, _, _ => refuse "expecting primary"

/-- The operations behind an operand that bind tighter than a level. -/
def operations : Nat → (counts : Bool) → (level : Nat) → Int → List Sign →
    Evaluation (Int × List Sign)
  | 0, _, _, _, _ => refuse "expecting primary"
  | bound + 1, counts, level, left, .operator operator :: rest => do
    if level ≤ operator.level then
      return (left, .operator operator :: rest)
    else
      let (right, rest) ← operand bound counts rest
      let (right, rest) ← operations bound counts operator.level right rest
      let value ← if counts then calculate operator left right else pure right
      operations bound counts level value rest
  | _ + 1, _, _, left, signs => return (left, signs)

def conjunction : Nat → (counts : Bool) → List Sign → Evaluation (Int × List Sign)
  | 0, _, _ => refuse "expecting primary"
  | bound + 1, counts, signs => do
    let (first, rest) ← operand bound counts signs
    let (left, rest) ← operations bound counts loosestLevel first rest
    match rest with
    | .and :: rest =>
      let (right, rest) ← conjunction bound (counts && left != 0) rest
      return (truth (left ≠ 0 ∧ right ≠ 0), rest)
    | rest => return (left, rest)

def disjunction : Nat → (counts : Bool) → List Sign → Evaluation (Int × List Sign)
  | 0, _, _ => refuse "expecting primary"
  | bound + 1, counts, signs => do
    let (left, rest) ← conjunction bound counts signs
    match rest with
    | .or :: rest =>
      let (right, rest) ← disjunction bound (counts && left == 0) rest
      return (truth (left ≠ 0 ∨ right ≠ 0), rest)
    | rest => return (left, rest)

def choice : Nat → (counts : Bool) → List Sign → Evaluation (Int × List Sign)
  | 0, _, _ => refuse "expecting primary"
  | bound + 1, counts, signs => do
    let (condition, rest) ← disjunction bound counts signs
    match rest with
    | .question :: rest =>
      let (first, rest) ← assignment bound (counts && condition != 0) rest
      match rest with
      | .colon :: rest =>
        let (second, rest) ← choice bound (counts && condition == 0) rest
        return (if condition ≠ 0 then first else second, rest)
      | _ => refuse "expecting ':'"
    | rest => return (condition, rest)

def assignment : Nat → (counts : Bool) → List Sign → Evaluation (Int × List Sign)
  | 0, _, _ => refuse "expecting primary"
  | bound + 1, counts, .name name :: .assign operator :: rest => do
    let (value, rest) ← assignment bound counts rest
    if counts then
      let value ← match operator with
        | some operator => do calculate operator (← valueOf name) value
        | none => pure value
      Script.setVariable name (numberText value)
      return (value, rest)
    else
      return (value, rest)
  | bound + 1, counts, signs => choice bound counts signs

end

def evaluate (text : List Char) : Script Int := do
  let signs := signsOf (text.length + 1) text
  let evaluation : Evaluation Int := do
    let (value, rest) ← assignment (8 * signs.length + 16) true signs
    if rest.isEmpty then return value else refuse "expecting EOF"
  evaluation text

end Findings.Simulation.Shell.Arithmetic
