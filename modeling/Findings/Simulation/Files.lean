import Findings.Files.World

/-!
Contract: the files that are there before anything is made.

Owns:
- the devices and the programs of a system, with the folders that they are in;
- how a file says which program of the system it is;
- `resolveNew`, where a path leads that need not exist.

Does not own: what the programs do.
-/

namespace Findings.Simulation

/-! ## Programs -/

/-- The octets at the front of a program of the system; its name follows. -/
def programMark : List UInt8 := [0x7F, 0x45, 0x4C, 0x46]

def programFile (name : String) : Node :=
  .file (programMark ++ Text.utf8 name.toList) .program

/-- The name of the program of the system that a content is. -/
def programName? (content : List UInt8) : Option String :=
  if programMark.isPrefixOf content then
    (Text.decode? (content.drop programMark.length)).map String.ofList
  else
    none

/-! ## Files -/

def deviceFolder : Node :=
  .folder [
    ("fd", .link "/proc/self/fd"),
    ("full", .device .full),
    ("null", .device .null),
    ("stderr", .link "/proc/self/fd/2"),
    ("stdin", .link "/proc/self/fd/0"),
    ("stdout", .link "/proc/self/fd/1"),
    ("tty", .device .terminal),
    ("zero", .device .zero)]

def descriptorFolder : Node :=
  .folder ((List.range 10).map fun number => (toString number, .device (.descriptor number)))

def userFile : Node :=
  .file (Text.utf8 "root:x:0:0:root:/root:/bin/bash\n".toList) .readable

/-- The files of a system that has programs of some names. -/
def standardFiles (programs : List String) : Node :=
  .folder [
    ("bin", .link "usr/bin"),
    ("dev", deviceFolder),
    ("etc", .folder [("passwd", userFile)]),
    ("home", .folder []),
    ("proc", .folder [("self", .folder [("fd", descriptorFolder)])]),
    ("root", .folder []),
    ("sbin", .link "usr/sbin"),
    ("tmp", .folder []),
    ("usr", .folder [
      ("bin", .folder (programs.map fun name => (name, programFile name))),
      ("local", .folder [("bin", .folder []), ("sbin", .folder [])]),
      ("sbin", .folder [])]),
    ("var", .folder [("tmp", .folder [])])]

end Findings.Simulation

namespace Findings.World

/-- The location of a path that need not exist, in a folder that does. -/
def resolveNew (world : World) (path : String) : Except SystemFault (List String) :=
  match world.resolve true path with
  | .ok location => .ok location
  | .error .missing =>
    match (pathSteps path).getLast? with
    | none | some "." | some ".." => .error .missing
    | some name => do
      let start := if isAbsolute path then [] else world.current
      let folder ← walk world.root true maxLinks start ((pathSteps path).dropLast ++ ["."])
      if (world.root.at? (folder ++ [name])).isSome then .error .missing
      else .ok (folder ++ [name])
  | .error fault => .error fault

end Findings.World
