import Findings.Text.Blank
import Findings.Text.Unicode.CaseTable

/-!
Contract: full lower and upper case of a text.

Owns:
- the case of one character, which may be several characters;
- the rule of the final sigma, the only mapping that depends on the
  neighbours of a character;
- equality up to the case of ASCII letters.

Does not own: mappings that depend on a language, and title case.
-/

namespace Findings.Text

open Unicode

def Unicode.CaseRun.covers (run : CaseRun) (code : Nat) : Bool :=
  run.first ≤ code && code ≤ run.last && (code - run.first) % run.stride == 0

/-- The image of a character under the first run that maps it, or the
character itself. -/
def shiftCase (runs : List CaseRun) (c : Char) : Char :=
  match runs.find? fun run => run.covers c.toNat with
  | some run => Char.ofNat ((c.toNat : Int) + run.shift).toNat
  | none => c

def upperChar (c : Char) : List Char :=
  match upperSequences.lookup c.toNat with
  | some codes => codes.map Char.ofNat
  | none => [shiftCase upperRuns c]

/-- The lower case of one character, away from the rule of the final sigma. -/
def lowerChar (c : Char) : List Char :=
  if c = '\u0130' then ['i', '\u0307'] else [shiftCase lowerRuns c]

/-- Whether the characters of a text, nearest first, begin with any number of
case-ignorable ones and then a cased one. -/
def meetsCased (text : List Char) : Bool :=
  match text.dropWhile fun c => inRanges caseIgnorableRanges c.toNat with
  | c :: _ => inRanges casedRanges c.toNat
  | [] => false

/-- The lower case of a capital sigma between two texts; the text before it is
given last character first.  It is the final form when a cased character
precedes and none follows, case-ignorable characters apart. -/
def lowerSigma (before after : List Char) : Char :=
  if meetsCased before && !meetsCased after then 'ς' else 'σ'

def uppercase (text : List Char) : List Char :=
  text.flatMap upperChar

/-- The lower case of a text that stands after another one, which is given
last character first. -/
def lowercaseAfter (before : List Char) : List Char → List Char
  | [] => []
  | c :: rest =>
    let image := if c = 'Σ' then [lowerSigma before rest] else lowerChar c
    image ++ lowercaseAfter (c :: before) rest

def lowercase (text : List Char) : List Char :=
  lowercaseAfter [] text

def sameUpToAsciiCase (left right : List Char) : Bool :=
  left.map Char.toLower == right.map Char.toLower

/-- A sigma is final at the end of a word, also before a full stop. -/
example :
    lowercase ['Α', 'Σ', '.', ' ', 'Σ', 'Α'] = ['α', 'ς', '.', ' ', 'σ', 'α'] := by
  decide +kernel

end Findings.Text
