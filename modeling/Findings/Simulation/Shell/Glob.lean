import Findings.Files.World
import Findings.Simulation.Machine.Basic
import Findings.Simulation.Shell.Pattern
import Findings.Simulation.Order

/-!
Contract: the paths that a pattern matches.

Owns:
- which parts of a pattern are looked up in folders;
- `pathsOf`, the paths in the order of their octets.

A name with a dot at its front is matched only by a pattern that has one there,
too.
-/

namespace Findings.Simulation.Shell

/-! ## Parts -/

/-- Whether a bracket is closed inside its part of a path, as far as that can
be seen without reading it. -/
def closesBracket : List Char → Bool
  | [] => false
  | '\\' :: [] => false
  | '\\' :: c :: rest => c != '/' && (rest.head? == some ']' || closesBracket rest)
  | c :: rest => c != '/' && (rest.head? == some ']' || closesBracket rest)

/-- Whether a part of a pattern has to be looked up. -/
def isActivePart : List Char → Bool
  | [] => false
  | '\\' :: [] => false
  | '\\' :: _ :: rest => isActivePart rest
  | '*' :: _ | '?' :: _ => true
  | '[' :: rest =>
    let inside := match rest with
      | '!' :: inside => inside
      | inside => inside
    closesBracket inside || isActivePart rest
  | _ :: rest => isActivePart rest

def withoutEscapes : List Char → List Char
  | '\\' :: c :: rest => c :: withoutEscapes rest
  | c :: rest => c :: withoutEscapes rest
  | [] => []

def patternParts : List Char → List (List Char)
  | [] => [[]]
  | '\\' :: '/' :: rest => [] :: patternParts rest
  | '\\' :: c :: rest =>
    match patternParts rest with
    | part :: more => ('\\' :: c :: part) :: more
    | [] => [['\\', c]]
  | c :: rest =>
    if c = '/' then
      [] :: patternParts rest
    else
      match patternParts rest with
      | part :: more => (c :: part) :: more
      | [] => [[c]]

/-! ## Paths -/

/-- The names in a folder that a part of a pattern matches. -/
def matchingNames (world : World) (folder : List Char) (part : List Char) : List (List Char) :=
  let path := if folder.isEmpty then "." else textOf folder
  match world.find path with
  | .ok (.folder entries) =>
    let names := ['.'] :: ['.', '.'] :: entries.map fun entry => octetsOf entry.1
    let showsHidden := match part with
      | '\\' :: c :: _ => c == '.'
      | c :: _ => c == '.'
      | [] => false
    names.filter fun name => (showsHidden || name.head? != some '.') && matchesPattern part name
  | _ => []

/-- The paths that parts of a pattern lead to behind a path.  Parts that are
not looked up have to be there only at the end. -/
def pathsBelow (world : World) (before : List Char) (isFound : Bool) :
    List (List Char) → List (List Char)
  | [] => []
  | [part] =>
    if isActivePart part then
      (matchingNames world before part).map (before ++ ·)
    else
      let path := before ++ withoutEscapes part
      if isFound && (world.resolve false (textOf path)).isOk then [path] else []
  | part :: more =>
    if isActivePart part then
      (matchingNames world before part).flatMap fun name =>
        pathsBelow world (before ++ name ++ ['/']) true more
    else
      pathsBelow world (before ++ withoutEscapes part ++ ['/']) isFound more

/-- The paths that a pattern matches, in the order of their octets. -/
def pathsOf (world : World) (pattern : List PatternChar) : List (List Char) :=
  let text := patternText pattern
  if pattern.any fun c => ['*', '?', '['].contains c.1 && !c.2 then
    (pathsBelow world [] false (patternParts text)).mergeSort Text.notAfter
  else
    []

end Findings.Simulation.Shell
