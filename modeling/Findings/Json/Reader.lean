import Findings.Json.Fault

/-!
Contract: the pieces from which readers of JSON are built.

Owns:
- `Reader`, a function on the unread text;
- the white space of the grammar and the rest of a literal name;
- the places that faults point at: a character that was looked at and left,
  or one that was taken.

Does not own: any recursion over values.  Readers of lists and objects take a
bound on the number of their turns; every turn takes at least one character,
so the length of the text is always enough.
-/

namespace Findings.Json

/-- Reads a value off the front of the unread text. -/
abbrev Reader (α : Type) := StateT (List Char) (Except Fault) α

namespace Reader

def fail {α : Type} (fault : Fault) : Reader α :=
  throw fault

/-- Refuses just before the unread text. -/
def failHere {α : Type} (cause : Cause) : Reader α := do
  fail ⟨cause, ← get, 0⟩

/-- Refuses one octet into the unread text, or at its end if it is empty. -/
def failAtNext {α : Type} (cause : Cause) : Reader α := do
  fail ⟨cause, ← get, 1⟩

def peek? : Reader (Option Char) := do
  return (← get).head?

def skipOne : Reader Unit :=
  modify List.tail

/-- Runs a step of a reader that is written as a function on the text. -/
def ofStep {α : Type} (step : List Char → Except Fault (α × List Char)) : Reader α :=
  step

end Reader

/-! ## White space and literal names -/

def isSpace (c : Char) : Bool :=
  c == ' ' || c == '\n' || c == '\t' || c == '\r'

def skipSpace : Reader Unit :=
  modify fun text => text.dropWhile isSpace

/-- Takes the given characters, the remainder of a literal name. -/
def literalRest : List Char → Reader Unit
  | [] => return
  | expected :: more => do
    match ← Reader.peek? with
    | none => Reader.failHere .endInValue
    | some c =>
      if c = expected then
        Reader.skipOne
        literalRest more
      else
        Reader.failAtNext .expectedLiteral

/-- A whole document: one value, with nothing but white space around it. -/
def document
    {α : Type}
    (reader : Reader α)
    (text : List Char) :
    Except Fault α := do
  let (value, rest) ← reader.run text
  match rest.dropWhile isSpace with
  | [] => return value
  | rest => throw ⟨.trailingCharacters, rest, 1⟩

end Findings.Json
