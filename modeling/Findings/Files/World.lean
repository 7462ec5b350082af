import Findings.Files.Fault
import Findings.Files.Node
import Findings.Files.Path
import Findings.Text.Utf8

/-!
Contract: the files that a program finds around it.

Owns:
- `World`, a tree of files with the places that a program starts from;
- `World.resolve`, the location of a path: links are followed, at most forty of
  them, and a step beyond a file is a fault;
- the longest names and paths that there are;
- reading and making files by their paths.

Everything is allowed to everybody, so no file is denied to be read.
-/

namespace Findings

/-- The files around a program, with the places that it starts from. -/
structure World where
  root : Node
  /-- The location that relative paths start from. -/
  current : List String
  /-- The folder of the program, if the system tells it. -/
  programFolder : Option String
  /-- The folder for temporary files. -/
  temporaryFolder : String

namespace World

/-! ## Finding -/

def maxLinks : Nat := 40

def maxNameSize : Nat := 255

/-- The greatest number of octets in a path. -/
def maxPathSize : Nat := 4095

/-- The location that steps lead to from another location, in a tree.  The last
step follows a link only if it is asked to. -/
def walk (root : Node) (follow : Bool) (links : Nat) (here steps : List String) :
    Except SystemFault (List String) :=
  match steps with
  | [] => .ok here
  | "." :: more => walk root follow links here more
  | ".." :: more => walk root follow links here.dropLast more
  | name :: more =>
    match root.at? (here ++ [name]) with
    | none => .error (if maxNameSize < name.utf8ByteSize then .nameTooLong else .missing)
    | some (.folder _) => walk root follow links (here ++ [name]) more
    | some (.file ..) | some (.device _) =>
      if more.isEmpty then .ok (here ++ [name]) else .error .notFolder
    | some (.link target) =>
      if more.isEmpty && !follow then
        .ok (here ++ [name])
      else
        match links with
        | 0 => .error .tooManyLinks
        | links + 1 =>
          walk root follow links (if isAbsolute target then [] else here)
            (pathSteps target ++ more)
termination_by (links, steps.length)

def resolve (world : World) (follow : Bool) (path : String) :
    Except SystemFault (List String) :=
  if path.toList.contains '\x00' then
    .error .zeroOctet
  else if path.isEmpty then
    .error .missing
  else if maxPathSize < path.utf8ByteSize then
    .error .nameTooLong
  else
    walk world.root follow maxLinks (if isAbsolute path then [] else world.current)
      (pathSteps path)

def find (world : World) (path : String) : Except SystemFault Node := do
  let location ← world.resolve true path
  match world.root.at? location with
  | some node => .ok node
  | none => .error .missing

def isFile (world : World) (path : String) : Bool :=
  match world.find path with
  | .ok (.file ..) => true
  | _ => false

def isFolder (world : World) (path : String) : Bool :=
  match world.find path with
  | .ok (.folder _) => true
  | _ => false

/-- The absolute path, without links, of the place that a path leads to. -/
def canonical (world : World) (path : String) : Except SystemFault String :=
  (world.resolve true path).map locationPath

/-- A path from the top on; what is relative starts from the current folder. -/
def absolute (world : World) (path : String) : String :=
  joinPath (locationPath world.current) path

/-! ## Reading -/

/-- The content of a file; a device is empty. -/
def read (world : World) (path : String) : Except SystemFault (List UInt8) := do
  match ← world.find path with
  | .file content _ => .ok content
  | .device .terminal => .error .noDevice
  | .device _ => .ok []
  | .folder _ | .link _ => .error .isFolder

def readText (world : World) (path : String) : Except IoFault String :=
  match world.read path with
  | .error fault => .error (.system fault)
  | .ok content =>
    match Text.decode? content with
    | some text => .ok (String.ofList text)
    | none => .error .invalidText

/-! ## Making -/

def put (world : World) (location : List String) (node : Node) : World :=
  { world with root := world.root.put location node }

/-- The location of a folder and its entries. -/
def openFolder (world : World) (folder : String) :
    Except SystemFault (List String × List (String × Node)) := do
  let location ← world.resolve true (joinPath folder ".")
  match world.root.at? location with
  | some (.folder entries) => .ok (location, entries)
  | some _ => .error .notFolder
  | none => .error .missing

/-- Makes a file of a new name in a folder, and gives its location. -/
def create (world : World) (folder name : String) (content : List UInt8) (mode : Mode) :
    Except SystemFault (World × List String) := do
  let path := joinPath folder name
  if path.toList.contains '\x00' then .error .zeroOctet
  if maxPathSize < path.utf8ByteSize then .error .nameTooLong
  let (location, _) ← world.openFolder folder
  if maxNameSize < name.utf8ByteSize then .error .nameTooLong
  return (world.put (location ++ [name]) (.file content mode), location ++ [name])

def names (world : World) (folder : String) : List String :=
  match world.openFolder folder with
  | .ok (_, entries) => entries.map Prod.fst
  | .error _ => []

def erase (world : World) (location : List String) : World :=
  { world with root := world.root.erase location }

end World

end Findings
