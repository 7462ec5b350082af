import Findings.Text.Casing

/-!
Contract: the rule repository of a language.

Owns: its key and its name, both made from the language by full case
conversion.
-/

namespace Findings

/-- The key of the repository that holds the rules of a language. -/
def repositoryKey (language : String) : String :=
  String.ofList (Text.lowercase language.toList) ++ "-go"

def repositoryName (language : String) : String :=
  String.ofList (Text.uppercase language.toList) ++ " Go"

end Findings
