/-!
Contract: the spellings of a path.

Owns: `normalizePath`, the form that all spellings of a path share: forward
slashes, and no step into the current directory at the front.

Does not own: steps inside a path, doubled slashes and letter case, which stay
as they are; no file is looked at.
-/

namespace Findings

def unifySlash (c : Char) : Char :=
  if c = '\\' then '/' else c

/-- A path without the steps into the current directory at its front. -/
def dropCurrent : List Char → List Char
  | '.' :: '/' :: rest => dropCurrent rest
  | path => path

/-- The form that all spellings of a path share. -/
def normalizePath (path : String) : String :=
  String.ofList (dropCurrent (path.toList.map unifySlash))

end Findings
