/-!
Contract: TOML values and tables.

Owns:
- `Value`, what a key is given: a scalar, an array or a table;
- the tables of a document while it is read, with the rule of each way to
  extend them.

A float and a date-time are kept as they are written: no setting holds one.

Does not own: the text of a document.
-/

namespace Findings.Toml

inductive Value where
  | string (value : String)
  | integer (value : Int)
  | float (written : String)
  | boolean (value : Bool)
  | dateTime (written : String)
  | array (elements : List Value)
  | table (entries : List (String × Value))

/-! ## Tables while a document is read -/

/-- How a table came into the document, which decides how it may be extended. -/
inductive Origin where
  /-- Named on the way to a longer header. -/
  | implicit
  /-- Opened by a header of its own. -/
  | header
  /-- Made by a dotted key. -/
  | dotted
deriving DecidableEq, Repr

/-- What a key holds while the document is read. -/
inductive Node where
  /-- A value in its final form; it is never extended. -/
  | value (value : Value)
  /-- A table. -/
  | table (origin : Origin) (entries : List (String × Node))
  /-- The tables of an array, the open one first. -/
  | tables (elements : List (List (String × Node)))

/-- The keys of a table, in the order in which they came. -/
abbrev Entries := List (String × Node)

namespace Entries

/-- Replaces what a key holds, or adds the key at the end; refuses where the
change does. -/
def alter (key : String) (change : Option Node → Option Node) : Entries → Option Entries
  | [] => do
    let node ← change none
    return [(key, node)]
  | (name, node) :: more =>
    if name = key then do
      let node ← change (some node)
      return (name, node) :: more
    else do
      let more ← alter key change more
      return (name, node) :: more

/-- Changes the table that a path of headers leads to.  Tables that are
missing on the way are made, and an array stands for its open table. -/
def alterAt (path : List String) (change : Entries → Option Entries) (entries : Entries) :
    Option Entries :=
  match path with
  | [] => change entries
  | key :: more =>
    entries.alter key fun
      | none => do
        return .table .implicit (← alterAt more change [])
      | some (.table origin inner) => do
        return .table origin (← alterAt more change inner)
      | some (.tables (last :: before)) => do
        return .tables ((← alterAt more change last) :: before)
      | some _ => none

/-- Gives a dotted key a value.  A key is given once, and neither a value nor
a table with a header is extended this way. -/
def insert (path : List String) (value : Value) (entries : Entries) : Option Entries :=
  match path with
  | [] => none
  | [key] =>
    entries.alter key fun
      | none => some (.value value)
      | some _ => none
  | key :: more =>
    entries.alter key fun
      | none => do
        return .table .dotted (← insert more value [])
      | some (.table .header _) => none
      | some (.table origin inner) => do
        return .table origin (← insert more value inner)
      | some _ => none

/-- Opens the table of a header.  A table is opened once, and one made by a
dotted key is not opened. -/
def openTable (path : List String) (entries : Entries) : Option Entries := do
  let key ← path.getLast?
  entries.alterAt path.dropLast fun inner =>
    inner.alter key fun
      | none => some (.table .header [])
      | some (.table .implicit inner) => some (.table .header inner)
      | some _ => none

def appendTable (path : List String) (entries : Entries) : Option Entries := do
  let key ← path.getLast?
  entries.alterAt path.dropLast fun inner =>
    inner.alter key fun
      | none => some (.tables [[]])
      | some (.tables elements) => some (.tables ([] :: elements))
      | some _ => none

end Entries

mutual

def Node.toValue : Node → Value
  | .value value => value
  | .table _ entries => .table (entriesToValues entries)
  | .tables elements => .array (elementsToValues elements).reverse

def entriesToValues : List (String × Node) → List (String × Value)
  | [] => []
  | (key, node) :: more => (key, node.toValue) :: entriesToValues more

def elementsToValues : List (List (String × Node)) → List Value
  | [] => []
  | entries :: more => .table (entriesToValues entries) :: elementsToValues more

end

end Findings.Toml
