import Findings.Simulation.Shell.Pattern

/-!
Contract: the fields that words become.

Owns:
- `Atom`, a part of an expanded word with what may be done to it;
- `fieldsOf`, splitting into fields, where only what was put in without quotes
  splits;
- the text and the pattern of a word that is not split.

What was put in is in regions.  White space that splits counts only once, and
not at the front of a field, but each region begins anew.
-/

namespace Findings.Simulation.Shell

/-! ## Atoms -/

inductive Atom where
  /-- A character that does not split. -/
  | char (c : Char) (quoted : Bool)
  /-- A quote, which makes a field even if there is nothing else. -/
  | mark
  /-- The beginning of a region; a `closed` one is split only by gaps. -/
  | seam (closed : Bool)
  /-- A character of a region. -/
  | loose (c : Char) (quoted : Bool)
  /-- The end of one parameter and the beginning of the next, in a region. -/
  | gap
deriving DecidableEq, Repr

def patternOf (atoms : List Atom) : List PatternChar :=
  atoms.filterMap fun
    | .char c quoted | .loose c quoted => some (c, quoted)
    | .mark | .seam _ | .gap => none

def plainText (atoms : List Atom) : List Char :=
  (patternOf atoms).map Prod.fst

/-! ## Fields -/

/-- The fields so far, last first, and the one that is read, last character
first. -/
structure FieldDraft where
  fields : List (List PatternChar)
  current : List PatternChar
  /-- Whether the field that is read has quotes. -/
  isMarked : Bool
  /-- How much of the field that is read stays if it is the last one. -/
  kept : Option Nat
  /-- Whether white space was read that ended a field. -/
  isBehindSpace : Bool
  isClosed : Bool
  wasClosed : Bool
  /-- How many fields may be made before the last one, if that is limited. -/
  remaining : Option Nat

namespace FieldDraft

def isFront (draft : FieldDraft) : Bool :=
  draft.current.isEmpty && !draft.isMarked

def finish (draft : FieldDraft) : FieldDraft :=
  { draft with
    fields := draft.current.reverse :: draft.fields
    current := []
    isMarked := false }

def add (draft : FieldDraft) (c : PatternChar) : FieldDraft :=
  { draft with current := c :: draft.current }

/-- Whether a character is white space that splits unless it is told
otherwise. -/
def isPlainSpace (c : Char) : Bool :=
  c == ' ' || c == '\t' || c == '\n'

/-- Reads a character of a region; a gap has none.  `splits` says whether it
splits, and `isSpace` whether it does so as white space. -/
def readLoose (draft : FieldDraft) (c : Option PatternChar) (splits isSpace : Bool) :
    FieldDraft :=
  let added (draft : FieldDraft) : FieldDraft :=
    match c with
    | some c => draft.add c
    | none => draft
  if draft.remaining = some 0 then
    if isSpace then
      added { draft with kept := some (draft.kept.getD draft.current.length) }
    else
      let kept := if splits && draft.isBehindSpace then draft.kept else none
      added { draft with kept := kept, isBehindSpace := false }
  else if draft.isBehindSpace && splits then
    if isSpace then draft else { draft with isBehindSpace := false }
  else if splits then
    let isBehindSpace := isSpace && !draft.wasClosed && !draft.isClosed
    if draft.isFront && isBehindSpace then
      { draft with isBehindSpace := false }
    else
      match draft.remaining with
      | some (remaining + 1) =>
        if remaining = 0 then
          added { draft with
            kept := some draft.current.length
            isBehindSpace := isBehindSpace
            remaining := some 0 }
        else
          { draft with isBehindSpace := isBehindSpace, remaining := some remaining }.finish
      | _ => { draft with isBehindSpace := isBehindSpace }.finish
  else
    added { draft with isBehindSpace := false }

def read (separators : List Char) (draft : FieldDraft) : Atom → FieldDraft
  | .char c quoted => draft.add (c, quoted)
  | .mark => { draft with isMarked := true }
  | .seam closed =>
    { draft with wasClosed := draft.isClosed, isClosed := closed, isBehindSpace := false }
  | .loose c quoted =>
    let splits := !draft.isClosed && separators.contains c
    draft.readLoose (some (c, quoted)) splits (splits && isPlainSpace c)
  | .gap => draft.readLoose none true true

def result (draft : FieldDraft) : List (List PatternChar) :=
  let current := match draft.kept with
    | some length => draft.current.drop (draft.current.length - length)
    | none => draft.current
  let draft := { draft with current := current }
  (if draft.isFront && !draft.isClosed then draft else draft.finish).fields.reverse

end FieldDraft

/-- The fields of an expanded word; if their number is limited, the last one is
whatever is left. -/
def fieldsOf (separators : List Char) (limit : Option Nat) (atoms : List Atom) :
    List (List PatternChar) :=
  (atoms.foldl (FieldDraft.read separators)
    ⟨[], [], false, none, false, false, false, limit⟩).result

end Findings.Simulation.Shell
