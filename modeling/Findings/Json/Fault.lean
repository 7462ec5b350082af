import Findings.Decimal.Double
import Findings.Text.Quoted

/-!
Contract: why a JSON text was refused, and where.

Owns:
- `Cause`, one constructor per reason, and its wording;
- `Category`: the text ends too early, is not JSON, or holds other data than
  expected;
- `Fault`, a cause at a place, and the place as line and column.

A column counts octets of UTF-8 since the last line feed, not characters.
-/

namespace Findings.Json

open Findings.Text

/-! ## Causes -/

/-- What stands where something else was expected. -/
inductive Found where
  | null
  | boolean (value : Bool)
  | integer (value : Int)
  | floating (value : Decimal.Double)
  | text (value : String)
  | list
  | object
deriving DecidableEq, Repr

/-- How well-formed data differs from the expected shape. -/
inductive Mismatch where
  /-- A value of another kind. -/
  | kind (found : Found) (expected : String)
  /-- A value of the right kind outside its range. -/
  | range (found : Found) (expected : String)
  /-- A record without a field that it must have. -/
  | missingField (name : String)
  /-- A record that gives a field twice. -/
  | duplicateField (name : String)
  /-- A list of too few fields. -/
  | length (count : Nat) (record : String) (fields : Nat)
  /-- A name that is none of the allowed ones. -/
  | unknownVariant (name : String) (expected : String)
deriving DecidableEq, Repr

inductive Cause where
  | endInList
  | endInObject
  | endInString
  | endInValue
  | expectedColon
  | expectedListCommaOrEnd
  | expectedObjectCommaOrEnd
  | expectedLiteral
  | expectedValue
  | invalidEscape
  | invalidNumber
  | numberOutOfRange
  | controlCharacter
  | keyNotString
  | loneSurrogate
  | unfinishedSurrogatePair
  | trailingComma
  | trailingCharacters
  | mismatch (difference : Mismatch)
deriving DecidableEq, Repr

inductive Category where
  /-- The text ends before the data does. -/
  | truncated
  /-- The text is not JSON. -/
  | malformed
  /-- The data has another shape than expected. -/
  | mismatched
deriving DecidableEq, Repr

def Cause.category : Cause → Category
  | .endInList | .endInObject | .endInString | .endInValue => .truncated
  | .mismatch _ => .mismatched
  | _ => .malformed

/-! ## Wording -/

def Found.message : Found → String
  | .null => "null"
  | .boolean true => "boolean `true`"
  | .boolean false => "boolean `false`"
  | .integer value => "integer `" ++ toString value ++ "`"
  | .floating value => "floating point `" ++ String.ofList value.text ++ "`"
  | .text value => "string " ++ String.ofList (quoted value.toList)
  | .list => "sequence"
  | .object => "map"

def Mismatch.message : Mismatch → String
  | .kind found expected => "invalid type: " ++ found.message ++ ", expected " ++ expected
  | .range found expected => "invalid value: " ++ found.message ++ ", expected " ++ expected
  | .missingField name => "missing field `" ++ name ++ "`"
  | .duplicateField name => "duplicate field `" ++ name ++ "`"
  | .length count record fields =>
    "invalid length " ++ toString count ++ ", expected struct " ++ record ++ " with "
      ++ toString fields ++ " elements"
  | .unknownVariant name expected =>
    "unknown variant `" ++ name ++ "`, expected `" ++ expected ++ "`"

def Cause.message : Cause → String
  | .endInList => "EOF while parsing a list"
  | .endInObject => "EOF while parsing an object"
  | .endInString => "EOF while parsing a string"
  | .endInValue => "EOF while parsing a value"
  | .expectedColon => "expected `:`"
  | .expectedListCommaOrEnd => "expected `,` or `]`"
  | .expectedObjectCommaOrEnd => "expected `,` or `\x7d`"
  | .expectedLiteral => "expected ident"
  | .expectedValue => "expected value"
  | .invalidEscape => "invalid escape"
  | .invalidNumber => "invalid number"
  | .numberOutOfRange => "number out of range"
  | .controlCharacter =>
    "control character (\\u0000-\\u001F) found while parsing a string"
  | .keyNotString => "key must be a string"
  | .loneSurrogate => "lone leading surrogate in hex escape"
  | .unfinishedSurrogatePair => "unexpected end of hex escape"
  | .trailingComma => "trailing comma"
  | .trailingCharacters => "trailing characters"
  | .mismatch difference => difference.message

/-! ## Places -/

/-- A line, counted from one, and the octets before a place on that line. -/
structure Position where
  line : Nat
  column : Nat
deriving DecidableEq, Repr

namespace Position

def start : Position := ⟨1, 0⟩

def advance (position : Position) (c : Char) : Position :=
  if c = '\n' then ⟨position.line + 1, 0⟩
  else ⟨position.line, position.column + c.utf8Size⟩

/-- The place some octets further on, at most at the end of the text.  It may
lie inside a character. -/
def advanceOctets (position : Position) : Nat → List Char → Position
  | _, [] => position
  | 0, _ => position
  | count, c :: rest =>
    if c.utf8Size ≤ count then
      (position.advance c).advanceOctets (count - c.utf8Size) rest
    else
      ⟨position.line, position.column + count⟩

end Position

/-- A cause at a place: the text that was unread, and how many of its octets
the fault had already looked at. -/
structure Fault where
  cause : Cause
  rest : List Char
  ahead : Nat
deriving DecidableEq, Repr

def Fault.position (fault : Fault) (text : List Char) : Position :=
  let consumed := text.take (text.length - fault.rest.length)
  (consumed.foldl Position.advance .start).advanceOctets fault.ahead fault.rest

/-- A refusal as it is reported: the cause with its line and column. -/
structure Refusal where
  cause : Cause
  position : Position
deriving DecidableEq, Repr

def Fault.toRefusal (fault : Fault) (text : List Char) : Refusal :=
  ⟨fault.cause, fault.position text⟩

def Refusal.message (refusal : Refusal) : String :=
  refusal.cause.message ++ " at line " ++ toString refusal.position.line
    ++ " column " ++ toString refusal.position.column

end Findings.Json
