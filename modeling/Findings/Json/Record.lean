import Findings.Json.Skip

/-!
Contract: typed values read from JSON.

Owns:
- readers for strings, bounded integers, lists and values that may be null;
- `Shape`, the description of a record by its fields, and `record`, which
  reads it from an object or from the list of its fields in order;
- the refusal of a value of another kind, which is read to its end first, so
  that a fault inside it wins.

Members that a shape does not name are passed over.  A fault of the record as
a whole is placed after an attempt to close it.
-/

namespace Findings.Json

/-! ## Scalars -/

def wrongKind {α : Type} (expected : String) : Reader α := do
  let refuse (found : Found) : Reader α :=
    Reader.failHere (.mismatch (.kind found expected))
  let refuseNumeral (number : Numeral) : Reader α :=
    match number with
    | .integer value => refuse (.integer value)
    | .floating value => refuse (.floating value)
  match ← Reader.peek? with
  | none => Reader.failAtNext .expectedValue
  | some c =>
    if c = 'n' then
      Reader.skipOne
      literalRest ['u', 'l', 'l']
      refuse .null
    else if c = 't' then
      Reader.skipOne
      literalRest ['r', 'u', 'e']
      refuse (.boolean true)
    else if c = 'f' then
      Reader.skipOne
      literalRest ['a', 'l', 's', 'e']
      refuse (.boolean false)
    else if c = '-' then
      Reader.skipOne
      refuseNumeral (← numeral true)
    else if c.isDigit then
      refuseNumeral (← numeral false)
    else if c = '"' then
      Reader.skipOne
      refuse (.text (← stringRest))
    else if c = '[' then
      refuse .list
    else if c = '\x7b' then
      refuse .object
    else
      Reader.failAtNext .expectedValue

def valueStart : Reader Char := do
  skipSpace
  match ← Reader.peek? with
  | some c => return c
  | none => Reader.failAtNext .endInValue

def string (expected : String) : Reader String := do
  if (← valueStart) = '"' then
    Reader.skipOne
    stringRest
  else
    wrongKind expected

/-- Reads an integer between two bounds; `expected` names its type. -/
def integer (least greatest : Int) (expected : String) : Reader Int := do
  let first ← valueStart
  if first = '-' ∨ first.isDigit then
    if first = '-' then
      Reader.skipOne
    match ← numeral (first = '-') with
    | .floating value => Reader.failHere (.mismatch (.kind (.floating value) expected))
    | .integer value =>
      if least ≤ value ∧ value ≤ greatest then
        return value
      else
        Reader.failHere (.mismatch (.range (.integer value) expected))
  else
    wrongKind expected

def unit : Reader Unit := do
  if (← valueStart) = 'n' then
    Reader.skipOne
    literalRest ['u', 'l', 'l']
  else
    wrongKind "unit"

def nullable {α : Type} (reader : Reader α) : Reader (Option α) := do
  skipSpace
  if (← Reader.peek?) = some 'n' then
    Reader.skipOne
    literalRest ['u', 'l', 'l']
    return none
  else
    some <$> reader

/-! ## Lists -/

/-- Whether another element follows in a list.  The comma before it is taken,
the closing bracket is not. -/
def nextElement (first : Bool) : Reader Bool := do
  skipSpace
  match ← Reader.peek? with
  | none => Reader.failAtNext .endInList
  | some c =>
    if c = ']' then
      return false
    else if first then
      return true
    else if c = ',' then
      Reader.skipOne
      skipSpace
      match ← Reader.peek? with
      | none => Reader.failAtNext .endInValue
      | some c =>
        if c = ']' then Reader.failAtNext .trailingComma
        else return true
    else
      Reader.failAtNext .expectedListCommaOrEnd

def closeList : Reader Unit := do
  skipSpace
  match ← Reader.peek? with
  | none => Reader.failAtNext .endInList
  | some c =>
    if c = ']' then
      Reader.skipOne
    else if c = ',' then
      Reader.skipOne
      skipSpace
      if (← Reader.peek?) = some ']' then Reader.failAtNext .trailingComma
      else Reader.failAtNext .trailingCharacters
    else
      Reader.failAtNext .trailingCharacters

/-- The elements of a list after those already read, which are given last
first. -/
def elements {α : Type} (element : Reader α) : Nat → Bool → List α → Reader (List α)
  | 0, _, _ => Reader.failHere .endInList
  | bound + 1, first, read => do
    if ← nextElement first then
      let value ← element
      elements element bound false (value :: read)
    else
      closeList
      return read.reverse

def list {α : Type} (element : Reader α) (bound : Nat) : Reader (List α) := do
  if (← valueStart) = '[' then
    Reader.skipOne
    elements element (bound + 1) true []
  else
    wrongKind "a sequence"

/-! ## Records -/

/-- When a field may be left out. -/
inductive Presence where
  /-- Never. -/
  | required
  /-- In an object, but not in a list of fields. -/
  | optionalMember
  /-- In an object and at the end of a list of fields. -/
  | optional
deriving DecidableEq, Repr

/-- A field of a record: its name, when it may be left out, and how it is read
and put into the record. -/
structure RecordField (α : Type) where
  name : String
  presence : Presence
  read : Reader (α → α)

/-- A record: its name, the value before any field is read, and the fields in
their order. -/
structure Shape (α : Type) where
  name : String
  blank : α
  fields : List (RecordField α)

namespace Shape

variable {α : Type}

def missing? (shape : Shape α) (seen : List String) : Option (RecordField α) :=
  shape.fields.find? fun field =>
    field.presence == .required && !seen.contains field.name

/-- The text after an attempt to close an object. -/
def afterObject (text : List Char) : List Char :=
  match text.dropWhile isSpace with
  | '\x7d' :: rest => rest
  | rest => rest

def failObject (mismatch : Mismatch) : Reader α := do
  Reader.fail ⟨.mismatch mismatch, afterObject (← get), 0⟩

/-- Whether another member follows in an object.  The comma before it is
taken, its opening quote and the closing bracket are not. -/
def nextMember (first : Bool) : Reader Bool := do
  skipSpace
  match ← Reader.peek? with
  | none => Reader.failAtNext .endInObject
  | some c =>
    if c = '\x7d' then
      return false
    else if first then
      if c = '"' then return true
      else Reader.failAtNext .keyNotString
    else if c = ',' then
      Reader.skipOne
      skipSpace
      match ← Reader.peek? with
      | none => Reader.failAtNext .endInValue
      | some c =>
        if c = '"' then return true
        else if c = '\x7d' then Reader.failAtNext .trailingComma
        else Reader.failAtNext .keyNotString
    else
      Reader.failAtNext .expectedObjectCommaOrEnd

def colon : Reader Unit := do
  skipSpace
  match ← Reader.peek? with
  | none => Reader.failAtNext .endInObject
  | some c =>
    if c = ':' then Reader.skipOne
    else Reader.failAtNext .expectedColon

/-- The members of an object after those in `seen`, put into `value`. -/
def members
    (shape : Shape α)
    (bound : Nat) :
    Nat → Bool → List String → α → Reader α
  | 0, _, _, _ => Reader.failHere .endInObject
  | turns + 1, first, seen, value => do
    if ← nextMember first then
      Reader.skipOne
      let name ← stringRest
      match shape.fields.find? fun field => field.name == name with
      | none =>
        colon
        skipValue bound
        members shape bound turns false seen value
      | some field =>
        if seen.contains name then
          failObject (.duplicateField name)
        else
          colon
          let update ← field.read
          members shape bound turns false (name :: seen) (update value)
    else
      match shape.missing? seen with
      | some field => failObject (.missingField field.name)
      | none =>
        Reader.skipOne
        return value

/-- The fields of a record that is given as the list of its fields; `count` of
them were read. -/
def positional (shape : Shape α) : List (RecordField α) → Nat → α → Reader α
  | [], _, value => do
    closeList
    return value
  | field :: more, count, value => do
    if ← nextElement (count = 0) then
      let update ← field.read
      positional shape more (count + 1) (update value)
    else if field.presence = .optional then
      positional shape more (count + 1) value
    else
      Reader.skipOne
      Reader.failHere (.mismatch (.length count shape.name shape.fields.length))

end Shape

def record {α : Type} (shape : Shape α) (bound : Nat) : Reader α := do
  let first ← valueStart
  if first = '[' then
    Reader.skipOne
    shape.positional shape.fields 0 shape.blank
  else if first = '\x7b' then
    Reader.skipOne
    shape.members bound (bound + 1) true [] shape.blank
  else
    wrongKind ("struct " ++ shape.name)

/-- Reads the name of the only member of an object, whose bracket is taken. -/
def onlyName : Reader String := do
  skipSpace
  match ← Reader.peek? with
  | none => Reader.failAtNext .endInObject
  | some '"' =>
    Reader.skipOne
    stringRest
  | some '\x7d' => Reader.failAtNext .expectedValue
  | some _ => Reader.failAtNext .keyNotString

/-- Reads a name out of a closed set with one member: the name itself, or an
object whose only member has the name and the value null. -/
def variant (name : String) : Reader Unit := do
  let check (found : String) : Reader Unit :=
    if found = name then return
    else Reader.failHere (.mismatch (.unknownVariant found name))
  let first ← valueStart
  if first = '"' then
    Reader.skipOne
    check (← stringRest)
  else if first = '\x7b' then
    Reader.skipOne
    check (← onlyName)
    Shape.colon
    unit
    skipSpace
    match ← Reader.peek? with
    | none => Reader.failHere .endInObject
    | some c =>
      if c = '\x7d' then Reader.skipOne
      else Reader.failHere .expectedValue
  else
    Reader.failAtNext .expectedValue

end Findings.Json
