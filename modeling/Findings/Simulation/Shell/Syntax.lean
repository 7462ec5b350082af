import Findings.Simulation.Machine.Basic

/-!
Contract: what a shell script says.

Owns:
- words, made of literal text and of what is put in for parameters, commands
  and arithmetic;
- redirections and commands.

A character of a script stands for one octet.

Does not own: the text of a script and what a command does.
-/

namespace Findings.Simulation.Shell

/-! ## Names -/

def isNameStart (c : Char) : Bool :=
  c.isAlpha || c == '_'

def isNameChar (c : Char) : Bool :=
  c.isAlphanum || c == '_'

def isName (text : List Char) : Bool :=
  text.all isNameChar && text.head?.any isNameStart

/-- A parameter that is named by one character that is no letter. -/
def isSpecial (c : Char) : Bool :=
  c.isDigit || ['@', '*', '#', '?', '-', '$', '!'].contains c

/-- The name in front of an equals sign at the start of a text. -/
def assignedName? (text : List Char) : Option (List Char) :=
  let name := text.takeWhile isNameChar
  if isName name && (text.drop name.length).head? == some '=' then some name else none

/-- The commands that no function may be named like. -/
def specialCommands : List String := [
  ".", ":", "break", "continue", "eval", "exec", "exit", "export", "local", "readonly", "return",
  "set", "shift", "times", "trap", "unset"]

/-! ## Commands -/

inductive Change where
  /-- The value as it is. -/
  | keep
  | length
  /-- A word in place of a missing value. -/
  | orElse
  /-- The same, and the parameter is given that value. -/
  | orAssign
  /-- A word in place of a value that is there. -/
  | ifPresent
  /-- The script ends without a value. -/
  | orFail
  /-- The value without what a pattern matches at its front. -/
  | dropFront (longest : Bool)
  /-- The value without what a pattern matches at its end. -/
  | dropEnd (longest : Bool)
  /-- Nothing that is known, which is found out when it is used. -/
  | unknown
deriving DecidableEq, Repr

inductive Direction where
  | read
  | write
  /-- To a file that may be there even if files are protected. -/
  | overwrite
  | append
  | readWrite
  | duplicate
  /-- From the here-document of a number. -/
  | here (document : Nat)
deriving DecidableEq, Repr

mutual

inductive Piece where
  | literal (text : List Char) (quoted : Bool)
  /-- A quote, which leaves a trace even if there is nothing behind it. -/
  | mark
  /-- A parameter; `emptyToo` counts an empty value as missing. -/
  | parameter
    (name : List Char)
    (change : Change)
    (emptyToo : Bool)
    (word : List Piece)
    (quoted : Bool)
  | output (body : Option Command) (quoted : Bool)
  | arithmetic (expression : List Piece) (quoted : Bool)

inductive Redirection where
  | mk (descriptor : Nat) (direction : Direction) (target : List Piece)

inductive Command where
  | simple
    (line : Nat)
    (assignments : List (List Char × List Piece))
    (words : List (List Piece))
    (redirections : List Redirection)
  | pipeline (stages : List Command)
  | negated (command : Command)
  | both (left right : Command)
  | either (left right : Command)
  | sequence (first second : Command)
  | background (line : Nat) (command : Command)
  | subshell (line : Nat) (body : Command) (redirections : List Redirection)
  | redirected (line : Nat) (command : Command) (redirections : List Redirection)
  /-- A choice between two commands; without the second one nothing is done. -/
  | branch (condition : Command) (consequent : Command) (alternative : Option Command)
  | loop (stopOn : Bool) (condition body : Command)
  | each (line : Nat) (name : List Char) (words : List (List Piece)) (body : Command)
  | choose
    (line : Nat)
    (word : List Piece)
    (branches : List (List (List Piece) × Option Command))
  | define (line : Nat) (name : List Char) (body : Command)

end

abbrev Word := List Piece

/-- A text that is put in for a here-document, and whether something may be put
in for its parts. -/
structure Document where
  number : Nat
  body : Word

/-- The text of a word that has nothing but literal text without quotes. -/
def plainText? (word : Word) : Option (List Char) :=
  word.foldlM
    (fun text piece =>
      match piece with
      | .literal more false => some (text ++ more)
      | _ => none)
    []

/-- The name that a word gives a value to, with the word of the value. -/
def assignment? : Word → Option (List Char × Word)
  | .literal text false :: rest => do
    let name ← assignedName? text
    let value := text.drop (name.length + 1)
    return (name, if value.isEmpty then rest else .literal value false :: rest)
  | _ => none

end Findings.Simulation.Shell
