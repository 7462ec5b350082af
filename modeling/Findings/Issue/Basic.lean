/-!
Contract: what is handed to the host for the findings of an analyzer.

Owns:
- `Metric`, the closed set of numbers that are kept for a file;
- `RuleKey`, a rule inside a rule repository;
- `NewIssue`, a finding against a rule, on a line or on the file as a whole.

Does not own: the file, which is named beside the issue.
-/

namespace Findings

inductive Metric where
  /-- Lines of code that are not comments. -/
  | linesOfCode
deriving DecidableEq, Repr

def Metric.name : Metric → String
  | .linesOfCode => "NCLOC"

/-- A rule inside a rule repository. -/
structure RuleKey where
  repository : String
  rule : String
deriving DecidableEq, Repr

def RuleKey.text (key : RuleKey) : String :=
  key.repository ++ ":" ++ key.rule

/-- A finding to be recorded.  Without a line it concerns the whole file. -/
structure NewIssue where
  rule : RuleKey
  message : String
  line : Option UInt32
deriving DecidableEq, Repr

end Findings
