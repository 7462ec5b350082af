import Findings.Simulation.Shell.Builtin

/-!
Contract: what is put in for parameters and tildes.

Owns:
- the values of parameters;
- `Manner`, how a word is expanded;
- the atoms of values, of all parameters together and of literal text.

All parameters together are fields of their own between double quotes, and
without quotes where fields are wanted; elsewhere they are one text.
-/

namespace Findings.Simulation.Shell

/-! ## Manners -/

inductive TildeRule where
  | nowhere
  /-- At the front of the word. -/
  | front
  /-- At the front of a value and behind colons. -/
  | value
  /-- The same behind an equals sign. -/
  | assignment
deriving DecidableEq, Repr

structure Manner where
  /-- Whether fields are wanted. -/
  splits : Bool
  /-- Whether literal text without quotes is in regions, as it is where it is put
  in for a parameter. -/
  isInner : Bool
  tilde : TildeRule

namespace Manner

def fields : Manner := ⟨true, false, .front⟩

/-- One text is wanted, in which a value stands behind a name and an equals
sign. -/
def assignment : Manner := ⟨false, false, .assignment⟩

def text : Manner := ⟨false, false, .front⟩

/-- One text is wanted, which is the value of a variable. -/
def value : Manner := ⟨false, false, .value⟩

/-- One text is wanted, in which tildes have no meaning. -/
def plain : Manner := ⟨false, false, .nowhere⟩

end Manner

/-! ## Values -/

/-- The text of octets or digits in which a value is put in without quotes. -/
def looseAtoms (value : List Char) : List Atom :=
  .seam false :: value.map fun c => .loose c false

def valueAtoms (quoted : Bool) (value : List Char) : List Atom :=
  if quoted then value.map fun c => .char c true else looseAtoms value

/-- Whether a name is that of all parameters together. -/
def isAll (name : List Char) : Bool :=
  name = ['@'] || name = ['*']

namespace State

/-- The value of a parameter that is not all of them. -/
def parameter? (shell : State) (name : List Char) : Option (List Char) :=
  match name with
  | ['#'] => some (digitsOf shell.parameters.length)
  | ['?'] => some (digitsOf shell.status)
  | ['$'] => some (digitsOf shell.rootProcess)
  | ['!'] => shell.latest.map digitsOf
  | ['-'] => some shell.optionLetters
  | name =>
    if name.all Char.isDigit then
      match digitsValue 10 name with
      | 0 => some shell.name
      | number + 1 => shell.parameters[number]?
    else
      shell.valueOf? name

/-- What stands between all parameters in one text. -/
def separator (shell : State) : List Char :=
  match shell.valueOf? "IFS".toList with
  | some separators => separators.take 1
  | none => [' ']

def joined (shell : State) : List Char :=
  List.intercalate shell.separator shell.parameters

def text? (shell : State) (name : List Char) : Option (List Char) :=
  if isAll name then some shell.joined else shell.parameter? name

def allAtoms (shell : State) (splits quoted isEach : Bool) : List Atom :=
  let each := shell.parameters.map fun value => value.map fun c => Atom.loose c quoted
  if splits && quoted && isEach then
    if shell.parameters.isEmpty then [] else .seam true :: List.intercalate [.gap] each
  else if splits && !quoted then
    .seam false :: List.intercalate [.gap] each
  else
    valueAtoms quoted shell.joined

/-- The number of octets that count as the value of a parameter. -/
def size? (shell : State) (name : List Char) (splits quoted : Bool) : Option Nat :=
  if isAll name then
    let isApart := splits && (!quoted || name = ['@'])
    let gap := if isApart then 1 else shell.separator.length
    some ((shell.parameters.map List.length).foldl (· + ·) 0 + gap * (shell.parameters.length - 1))
  else
    (shell.parameter? name).map List.length

end State

/-! ## Tildes -/

def userFolders : List (String × String) := [
  ("root", "/root"), ("daemon", "/usr/sbin"), ("bin", "/bin"), ("sys", "/dev"),
  ("sync", "/bin"), ("games", "/usr/games"), ("man", "/var/cache/man"),
  ("lp", "/var/spool/lpd"), ("mail", "/var/mail"), ("news", "/var/spool/news"),
  ("uucp", "/var/spool/uucp"), ("proxy", "/bin"), ("www-data", "/var/www"),
  ("backup", "/var/backups"), ("list", "/var/list"), ("irc", "/run/ircd"),
  ("nobody", "/nonexistent")]

/-- The folder that a name behind a tilde stands for. -/
def State.homeOf? (shell : State) (name : List Char) : Option (List Char) :=
  if name.isEmpty then shell.valueOf? "HOME".toList
  else (userFolders.lookup (textOf name)).map String.toList

/-- A folder in place of the tilde at the front of a text, with the text behind
it.  `isWhole` says that nothing else of the word comes behind the text. -/
def State.tilde? (shell : State) (isValue isWhole : Bool) (text : List Char) :
    Option (List Char × List Char) :=
  match text with
  | '~' :: rest =>
    let name := rest.takeWhile fun c => c ≠ '/' && !(isValue && c = ':')
    let behind := rest.drop name.length
    if behind.isEmpty && !isWhole then none
    else (shell.homeOf? name).map fun home => (home, behind)
  | _ => none

def plainAtoms (isInner : Bool) (text : List Char) : List Atom :=
  if isInner then looseAtoms text else text.map fun c => .char c false

/-- The atoms of a value in which tildes have a meaning at the front and behind
colons. -/
def State.valueWithTildes (shell : State) (isInner isWhole : Bool) :
    (parts : List (List Char)) → (isFirst : Bool) → List Atom
  | [], _ => []
  | part :: more, isFirst =>
    let start := if isFirst then [] else plainAtoms isInner [':']
    let here := match shell.tilde? true (isWhole || !more.isEmpty) part with
      | some (home, behind) => home.map (Atom.char · true) ++ plainAtoms isInner behind
      | none => plainAtoms isInner part
    start ++ here ++ shell.valueWithTildes isInner isWhole more false

/-- The atoms of literal text without quotes.  `isFront` says that nothing of the
word comes in front of it, and `isWhole` that nothing comes behind it. -/
def State.literalAtoms (shell : State) (manner : Manner) (isFront isWhole : Bool)
    (text : List Char) : List Atom :=
  match manner.tilde with
  | .nowhere => plainAtoms manner.isInner text
  | .front =>
    match if isFront then shell.tilde? false isWhole text else none with
    | some (home, behind) =>
      home.map (Atom.char · true)
        ++ (if behind.isEmpty then [] else plainAtoms manner.isInner behind)
    | none => plainAtoms manner.isInner text
  | .value =>
    match searchFolders.splitColons text with
    | [] => []
    | part :: more =>
      if isFront then shell.valueWithTildes manner.isInner isWhole (part :: more) true
      else plainAtoms manner.isInner part ++ shell.valueWithTildes manner.isInner isWhole more false
  | .assignment =>
    let name := text.takeWhile (· ≠ '=')
    if isFront && name.length < text.length then
      plainAtoms manner.isInner (text.take (name.length + 1))
        ++ shell.valueWithTildes manner.isInner isWhole
          (searchFolders.splitColons (text.drop (name.length + 1))) true
    else
      match searchFolders.splitColons text with
      | [] => []
      | part :: more =>
        plainAtoms manner.isInner part
          ++ shell.valueWithTildes manner.isInner isWhole more false

end Findings.Simulation.Shell
