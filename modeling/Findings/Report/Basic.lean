/-!
Contract: what an analyzer reports about the files of a project.

Owns:
- `Violation` and `FileReport`, with the numbers as the analyzer gives them;
- the line of a violation that can be used: from 1 to the greatest 32 bit
  number.  Any other number stands for the file as a whole.

Does not own: the JSON form, and the files of the project.
-/

namespace Findings

structure Violation where
  ruleType : String
  description : String
  /-- The line as reported, of any sign. -/
  sourceLine : Int64
deriving DecidableEq, Repr

/-- The line of a finding, if it names one that can be used. -/
def Violation.line? (violation : Violation) : Option UInt32 :=
  let line := violation.sourceLine.toInt
  if 1 ≤ line ∧ line < UInt32.size then some (UInt32.ofNat line.toNat) else none

/-- What an analyzer reports about one file. -/
structure FileReport where
  /-- The path as reported, in any spelling. -/
  path : String
  linesOfCode : Int64
  linesOfComments : Int64
  violations : List Violation
deriving DecidableEq, Repr

end Findings
