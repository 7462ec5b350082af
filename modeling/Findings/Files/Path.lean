/-!
Contract: paths as texts.

Owns:
- the names and steps that a path is made of;
- `joinPath`, a path seen from another one;
- the name of a path, its stem, its extension and the path around it.

A name is split at its last dot, but a dot at its front does not count, and the
name of the parent folder has neither stem nor extension.  No file is looked
at.
-/

namespace Findings

/-! ## Steps -/

/-- The parts of a text between slashes; there is always one. -/
def splitSlashes : List Char → List (List Char)
  | [] => [[]]
  | c :: rest =>
    if c = '/' then
      [] :: splitSlashes rest
    else
      match splitSlashes rest with
      | part :: more => (c :: part) :: more
      | [] => [[c]]

def isAbsolute (path : String) : Bool :=
  path.toList.head? == some '/'

/-- The steps of a path, without empty ones. -/
def pathNames (path : String) : List String :=
  ((splitSlashes path.toList).filter (!·.isEmpty)).map String.ofList

/-- The steps that are taken to reach a path.  A slash at the end is a step to
the same place, which must be a folder. -/
def pathSteps (path : String) : List String :=
  pathNames path ++ (if path.toList.getLast? = some '/' then ["."] else [])

def joinPath (base path : String) : String :=
  if isAbsolute path ∨ base.isEmpty then path
  else if base.toList.getLast? = some '/' then base ++ path
  else base ++ "/" ++ path

def locationPath (location : List String) : String :=
  if location.isEmpty then "/" else String.join (location.map ("/" ++ ·))

/-! ## Names -/

/-- The last step of a path that is not the current folder, unless it goes to
the parent folder. -/
def fileName? (path : String) : Option String :=
  match ((pathNames path).filter (· ≠ ".")).getLast? with
  | some ".." | none => none
  | some name => some name

/-- A name before and after its last dot, if there is such a dot behind the
first character. -/
def splitName (name : List Char) : List Char × Option (List Char) :=
  let after := (name.reverse.takeWhile (· ≠ '.')).reverse
  let before := name.take (name.length - after.length - 1)
  if after.length < name.length ∧ before ≠ [] then (before, some after) else (name, none)

def fileStem? (path : String) : Option String :=
  (fileName? path).map fun name => String.ofList (splitName name.toList).1

def extension? (path : String) : Option String := do
  let name ← fileName? path
  return String.ofList (← (splitName name.toList).2)

/-- A path without the slashes and the steps to the same place at its end, both
of which are given last character first. -/
def dropEnd : List Char → List Char
  | '/' :: path => dropEnd path
  | '.' :: '/' :: path => dropEnd ('/' :: path)
  | path => path

def parentPath (path : String) : String :=
  let chars := path.toList
  let parent := dropEnd ((dropEnd chars.reverse).dropWhile (· ≠ '/'))
  if parent.isEmpty && isAbsolute path then "/" else String.ofList parent.reverse

/-- Only the last dot splits a name, and not one at its front. -/
example :
    splitName ['a', '.', 'b', '.', 'c'] = (['a', '.', 'b'], some ['c'])
      ∧ splitName ['.', 'c'] = (['.', 'c'], none)
      ∧ splitName ['c', '.'] = (['c'], some []) := by
  decide

end Findings
