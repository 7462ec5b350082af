import Findings.Json.Numeral
import Findings.Json.Quoted

/-!
Contract: values passed over.

Owns: `skipValue`, which takes one JSON value of any depth and checks its
grammar only.  The brackets that are still open are kept as a list, so depth
is not limited.

Does not own: the range of numbers and the pairing of surrogates, neither of
which is checked in a value that is passed over.
-/

namespace Findings.Json

inductive Bracket where
  | list
  | object
deriving DecidableEq, Repr

namespace Bracket

def closing : Bracket → Char
  | list => ']'
  | object => '\x7d'

def endCause : Bracket → Cause
  | list => .endInList
  | object => .endInObject

def separatorCause : Bracket → Cause
  | list => .expectedListCommaOrEnd
  | object => .expectedObjectCommaOrEnd

end Bracket

/-- What has to come next, inside the brackets that are open, innermost
first. -/
inductive SkipState where
  /-- A value. -/
  | value (enclosing : List Bracket)
  /-- The first entry of a bracket, or its end. -/
  | opened (bracket : Bracket) (enclosing : List Bracket)
  /-- A separator or an end, after an entry. -/
  | entry (enclosing : List Bracket)
deriving DecidableEq, Repr

/-- Takes the name and the colon of the entry of an object; an entry of a list
has neither.  Afterwards comes the value. -/
def skipEntryName (bracket : Bracket) (enclosing : List Bracket) : Reader SkipState := do
  if bracket = .object then
    skipSpace
    match ← Reader.peek? with
    | none => Reader.failAtNext .endInObject
    | some c =>
      if c = '"' then
        Reader.skipOne
        skipStringRest
      else
        Reader.failAtNext .keyNotString
    skipSpace
    match ← Reader.peek? with
    | none => Reader.failAtNext .endInObject
    | some c =>
      if c = ':' then Reader.skipOne
      else Reader.failAtNext .expectedColon
  return .value (bracket :: enclosing)

def skipHead (enclosing : List Bracket) : Reader SkipState := do
  skipSpace
  match ← Reader.peek? with
  | none => Reader.failAtNext .endInValue
  | some c =>
    if c = 'n' then
      Reader.skipOne
      literalRest ['u', 'l', 'l']
      return .entry enclosing
    else if c = 't' then
      Reader.skipOne
      literalRest ['r', 'u', 'e']
      return .entry enclosing
    else if c = 'f' then
      Reader.skipOne
      literalRest ['a', 'l', 's', 'e']
      return .entry enclosing
    else if c = '-' then
      Reader.skipOne
      skipNumeral
      return .entry enclosing
    else if c.isDigit then
      skipNumeral
      return .entry enclosing
    else if c = '"' then
      Reader.skipOne
      skipStringRest
      return .entry enclosing
    else if c = '[' then
      Reader.skipOne
      return .opened .list enclosing
    else if c = '\x7b' then
      Reader.skipOne
      return .opened .object enclosing
    else
      Reader.failAtNext .expectedValue

/-- One turn: `none` once the value is complete. -/
def skipStep : SkipState → Reader (Option SkipState)
  | .value enclosing => some <$> skipHead enclosing
  | .opened bracket enclosing => do
    skipSpace
    match ← Reader.peek? with
    | none => Reader.failAtNext bracket.endCause
    | some c =>
      if c = bracket.closing then
        Reader.skipOne
        return some (.entry enclosing)
      else
        some <$> skipEntryName bracket enclosing
  | .entry [] => return none
  | .entry (bracket :: enclosing) => do
    skipSpace
    match ← Reader.peek? with
    | none => Reader.failAtNext bracket.endCause
    | some c =>
      if c = ',' then
        Reader.skipOne
        some <$> skipEntryName bracket enclosing
      else if c = bracket.closing then
        Reader.skipOne
        return some (.entry enclosing)
      else
        Reader.failAtNext bracket.separatorCause

def skipTurns : Nat → SkipState → Reader Unit
  | 0, _ => Reader.failHere .endInValue
  | bound + 1, state => do
    match ← skipStep state with
    | none => return
    | some state => skipTurns bound state

/-- Passes over one value in at most `2 * bound + 2` turns: a turn takes a
character or completes a value. -/
def skipValue (bound : Nat) : Reader Unit :=
  skipTurns (2 * bound + 2) (.value [])

end Findings.Json
