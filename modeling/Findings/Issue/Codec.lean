import Findings.Issue.Basic
import Findings.Report.Codec

/-!
Contract: metrics, rule keys and issues as JSON.

Owns: their members and their decoders, which read a text that holds one value
and nothing else.  The line of an issue may be null, or be left out of an
object but not out of a list of fields.
-/

namespace Findings

open Json

/-! ## Reading -/

def RuleKey.shape : Shape RuleKey where
  name := "RuleKey"
  blank := ⟨"", ""⟩
  fields := [
    textField "repository" fun value key => { key with repository := value },
    textField "rule" fun value key => { key with rule := value }]

def NewIssue.shape (bound : Nat) : Shape NewIssue where
  name := "NewIssue"
  blank := ⟨⟨"", ""⟩, "", none⟩
  fields := [
    { name := "rule"
      presence := .required
      read := (fun value issue => { issue with rule := value })
        <$> record RuleKey.shape bound },
    textField "message" fun value issue => { issue with message := value },
    { name := "line"
      presence := .optionalMember
      read := (fun value issue =>
          { issue with line := value.map fun line => UInt32.ofNat line.toNat })
        <$> nullable (integer 0 (UInt32.size - 1) "u32") }]

def RuleKey.decode (text : String) : Except Refusal RuleKey :=
  let chars := text.toList
  (document (record shape chars.length) chars).mapError (·.toRefusal chars)

def NewIssue.decode (text : String) : Except Refusal NewIssue :=
  let chars := text.toList
  (document (record (shape chars.length) chars.length) chars).mapError (·.toRefusal chars)

/-- One metric that is a text of its own: its name, or an object whose only
member has that name and the value null. -/
def Metric.decode (text : String) : Except Refusal Metric :=
  let chars := text.toList
  match document (variant Metric.linesOfCode.name) chars with
  | .ok () => .ok .linesOfCode
  | .error fault => .error (fault.toRefusal chars)

/-! ## Writing -/

def Metric.toJson (metric : Metric) : Value :=
  .text metric.name

def RuleKey.toJson (key : RuleKey) : Value :=
  .object [("repository", .text key.repository), ("rule", .text key.rule)]

/-- An issue as a JSON value; its line is always written. -/
def NewIssue.toJson (issue : NewIssue) : Value :=
  .object [
    ("rule", issue.rule.toJson),
    ("message", .text issue.message),
    ("line", .ofOption (issue.line.map fun line => (line.toNat : Int)))]

end Findings
