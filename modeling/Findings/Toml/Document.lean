import Findings.Toml.Scalar

/-!
Contract: TOML documents.

Owns:
- values, with arrays and inline tables, which may stand on several lines, have
  comments inside and a comma after the last entry;
- the lines of a document: keys with values, table headers and array headers;
- `parse`, the table that a text describes.

A text is refused as a whole: there is no table of the lines before a fault.
-/

namespace Findings.Toml

/-! ## Values -/

/-- The elements of an array after those already read, which are given last
first. -/
def arrayElements (value : Reader Value) : Nat → List Value → Reader (List Value)
  | 0, _ => failure
  | bound + 1, read => do
    skipLines (bound + 1)
    if ← Reader.take? [']'] then
      return read.reverse
    else
      let element ← value
      skipLines (bound + 1)
      if ← Reader.take? [','] then
        arrayElements value bound (element :: read)
      else
        Reader.expect [']']
        return (element :: read).reverse

def keyValue (value : Reader Value) (bound : Nat) : Reader (List String × Value) := do
  let path ← keyParts bound []
  Reader.expect ['=']
  skipSpace
  return (path, ← value)

/-- An entry of an inline table; lines may end around its equals sign. -/
def inlineKeyValue (value : Reader Value) (bound : Nat) : Reader (List String × Value) := do
  let path ← keyParts bound []
  skipLines bound
  Reader.expect ['=']
  skipLines bound
  return (path, ← value)

def inlineEntries (value : Reader Value) : Nat → Entries → Reader Entries
  | 0, _ => failure
  | bound + 1, entries => do
    skipLines (bound + 1)
    if ← Reader.take? ['\x7d'] then
      return entries
    else
      let (path, value') ← inlineKeyValue value (bound + 1)
      let entries ← entries.insert path value'
      skipLines (bound + 1)
      if ← Reader.take? [','] then
        inlineEntries value bound entries
      else
        Reader.expect ['\x7d']
        return entries

/-- Reads a value; `bound` limits its depth and its length. -/
def value : Nat → Reader Value
  | 0 => failure
  | bound + 1 => do
    match ← string? with
    | some text => return .string text
    | none =>
      if ← Reader.take? ['['] then
        return .array (← arrayElements (value bound) (bound + 1) [])
      else if ← Reader.take? ['\x7b'] then
        return .table (entriesToValues (← inlineEntries (value bound) (bound + 1) []))
      else
        word

/-! ## Lines -/

inductive Line where
  | pair (path : List String) (value : Value)
  | header (path : List String)
  | arrayHeader (path : List String)

def line (bound : Nat) : Reader Line := do
  if ← Reader.take? ['[', '['] then
    let path ← keyParts bound []
    Reader.expect [']', ']']
    return .arrayHeader path
  else if ← Reader.take? ['['] then
    let path ← keyParts bound []
    Reader.expect [']']
    return .header path
  else
    let (path, value) ← keyValue (value bound) bound
    return .pair path value

/-- The lines of a document after those already read, which are given last
first. -/
def lines (size : Nat) : Nat → List Line → Reader (List Line)
  | 0, read => return read.reverse
  | bound + 1, read => do
    skipLines size
    if (← get).isEmpty then
      return read.reverse
    else
      let next ← line size
      endOfLine
      lines size bound (next :: read)

/-! ## Documents -/

/-- A document while it is read: its tables, and the path of the table that is
open. -/
structure Draft where
  entries : Entries
  current : List String

def Draft.add (draft : Draft) : Line → Option Draft
  | .pair path value => do
    return { draft with
      entries := ← draft.entries.alterAt draft.current (Entries.insert path value) }
  | .header path => do
    return ⟨← draft.entries.openTable path, path⟩
  | .arrayHeader path => do
    return ⟨← draft.entries.appendTable path, path⟩

def tableOf (lines : List Line) : Option (List (String × Value)) := do
  let draft ← lines.foldlM Draft.add ⟨[], []⟩
  return entriesToValues draft.entries

/-- A text without a byte order mark at its front. -/
def dropMark : List Char → List Char
  | '\ufeff' :: rest => rest
  | text => text

/-- The table that a text describes, if it is a TOML document. -/
def parse (text : String) : Option (List (String × Value)) := do
  let chars := dropMark text.toList
  let size := chars.length + 1
  let (lines, rest) ← (lines size size []).run chars
  if rest.isEmpty then tableOf lines else none

end Findings.Toml
