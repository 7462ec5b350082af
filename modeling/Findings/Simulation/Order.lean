/-!
Contract: the order of texts by their characters.

Owns: `isBefore`, which compares code points one after another and puts a text
before its own continuations.

Does not own: orders that skip, fold or group characters.
-/

namespace Findings.Text

def isBefore (left right : List Char) : Bool :=
  List.lex left right fun a b => a < b

/-- Whether a text comes before another or is the same. -/
def notAfter (left right : List Char) : Bool :=
  !isBefore right left

end Findings.Text
