import Findings.Simulation.Shell.Syntax

/-!
Contract: the tokens of a shell script and the place where it is read.

Owns:
- `Token`, with the wording that faults give it;
- `Reader`, the unread text with the token that was read last;
- `Parser`, reading from the front or refusing;
- single characters: a backslash at the end of a line joins it with the next.

Does not own: words and commands.
-/

namespace Findings.Simulation.Shell

/-! ## Tokens -/

inductive Token where
  | endOfFile
  | newline
  | semicolon
  | background
  | andIf
  | orIf
  | pipe
  | leftBracket
  | rightBracket
  | endBranch
  | redirection
  | word
  | reserved (name : String)
deriving DecidableEq, Repr

/-- The words that have a meaning in front of a command. -/
def reservedWords : List String :=
  ["!", "case", "do", "done", "elif", "else", "esac", "fi", "for", "if", "in", "then", "until",
    "while", "\x7b", "\x7d"]

namespace Token

def wording : Token → String
  | endOfFile => "end of file"
  | newline => "newline"
  | semicolon => "\";\""
  | background => "\"&\""
  | andIf => "\"&&\""
  | orIf => "\"||\""
  | pipe => "\"|\""
  | leftBracket => "\"(\""
  | rightBracket => "\")\""
  | endBranch => "\";;\""
  | redirection => "redirection"
  | word => "word"
  | reserved name => "\"" ++ name ++ "\""

def endsList : Token → Bool
  | endOfFile | rightBracket | endBranch => true
  | reserved name =>
    ["do", "done", "elif", "else", "esac", "fi", "then", "\x7d"].contains name
  | _ => false

end Token

/-! ## Readers -/

structure Outlook where
  /-- Ends of lines are skipped. -/
  skipsLines : Bool
  reserved : Bool
  aliases : Bool
  /-- The token is where a here-document ends. -/
  delimiter : Bool
deriving DecidableEq, Repr

namespace Outlook

def none : Outlook := ⟨false, false, false, false⟩

def command : Outlook := ⟨false, true, true, false⟩

/-- A command is looked for, in this line or a later one. -/
def laterCommand : Outlook := ⟨true, true, true, false⟩

def join (left right : Outlook) : Outlook :=
  ⟨left.skipsLines || right.skipsLines, left.reserved || right.reserved,
    left.aliases || right.aliases, left.delimiter || right.delimiter⟩

end Outlook

/-- A here-document whose text comes behind the line. -/
structure DocumentRequest where
  number : Nat
  delimiter : List Char
  stripsTabs : Bool
  /-- Whether something is put in for parts of it. -/
  expands : Bool

structure RedirectionStart where
  descriptor : Nat
  direction : Direction
  stripsTabs : Bool

/-- A text that stands for another one at the front of a command. -/
structure AliasUse where
  name : List Char
  /-- How much is unread behind the text that was put in. -/
  behind : Nat
  /-- Whether the word behind it may stand for another one, too. -/
  goesOn : Bool

/-- The unread text of a script, with what was read last. -/
structure Reader where
  rest : List Char
  /-- The number of the line that is read. -/
  line : Nat
  /-- Whether the last token is read again. -/
  again : Bool
  last : Token
  outlook : Outlook
  /-- The last word, and whether it has quotes. -/
  word : Word
  isQuoted : Bool
  start : RedirectionStart
  requests : List DocumentRequest
  documents : List Document
  /-- The first number that no here-document has. -/
  fresh : Nat
  aliases : List (List Char × List Char)
  uses : List AliasUse

/-- A text that is no script, with the wording of the fault. -/
structure SyntaxFault where
  line : Nat
  wording : String
deriving DecidableEq, Repr

abbrev Parser (α : Type) := StateT Reader (Except SyntaxFault) α

namespace Parser

def fault {α : Type} (wording : String) : Parser α := do
  throw ⟨(← get).line, "Syntax error: " ++ wording⟩

/-- Refuses the last token, instead of which another one may be expected. -/
def unexpected {α : Type} (expected : Option Token) : Parser α := do
  let found := (← get).last.wording ++ " unexpected"
  match expected with
  | some token => fault (found ++ " (expecting " ++ token.wording ++ ")")
  | none => fault found

def rawChar : Parser (Option Char) := do
  let reader ← get
  match reader.rest with
  | [] => return none
  | c :: rest =>
    set { reader with rest := rest, line := if c = '\n' then reader.line + 1 else reader.line }
    return some c

/-- Joins the line with the next ones as long as it ends here. -/
def joinLines : Parser Unit :=
  modify fun reader =>
    let rec joined (rest : List Char) (line : Nat) : List Char × Nat :=
      match rest with
      | '\\' :: '\n' :: rest => joined rest (line + 1)
      | rest => (rest, line)
    let (rest, line) := joined reader.rest reader.line
    { reader with rest := rest, line := line }

def peek : Parser (Option Char) := do
  joinLines
  return (← get).rest.head?

def char : Parser (Option Char) := do
  joinLines
  rawChar

def take? (c : Char) : Parser Bool := do
  if (← peek) = some c then
    let _ ← rawChar
    return true
  else
    return false

def expect (outlook : Outlook) : Parser Unit :=
  modify fun reader => { reader with outlook := outlook }

def unread : Parser Unit :=
  modify fun reader => { reader with again := true }

def line : Parser Nat :=
  return (← get).line

/-- Reads characters as long as they are of a kind, after those already read,
which are given last first. -/
def charsOf (isOfKind : Char → Bool) : Nat → List Char → Parser (List Char)
  | 0, read => return read.reverse
  | bound + 1, read => do
    match ← peek with
    | none => return read.reverse
    | some c =>
      if isOfKind c then
        let _ ← rawChar
        charsOf isOfKind bound (c :: read)
      else
        return read.reverse

end Parser

end Findings.Simulation.Shell
