import Findings.CommandLine.Command
import Findings.Simulation.Launch

/-!
Contract: the program.

Owns: reading the files around the program into a tree, and writing what the
command says.

The files are those below the current folder, below the folder of the program
and below the arguments that are paths.  All of them count as executable.  Analyzers
are started on a simulated system, and what they do to files is done to the tree that
was read.
-/

namespace Findings

/-- The absolute path, without links, of the place that a path leads to, if it
leads anywhere. -/
def realPath? (path : String) : IO (Option String) :=
  try
    return some (← IO.FS.realPath (System.mkFilePath [path])).toString
  catch _ =>
    return none

/-- Reads the tree at a path.  A link that leads nowhere is read as one that
leads to itself. -/
partial def readTree (path : String) : IO Node := do
  let place := System.mkFilePath [path]
  match (← place.symlinkMetadata).type with
  | .dir =>
    let entries ← place.readDir
    return .folder (← entries.toList.mapM fun entry => do
      return (entry.fileName, ← readTree entry.path.toString))
  | .symlink => return .link ((← realPath? path).getD path)
  | _ => return .file (← IO.FS.readBinFile place).toList .program

def addTree (world : World) (path : String) : IO World := do
  match ← realPath? path with
  | some place => return world.put (pathNames place) (← readTree place)
  | none => return world

def programFolder? : IO (Option String) :=
  try
    return some (← IO.appDir).toString
  catch _ =>
    return none

/-- The variables that analyzers are told, with their values. -/
def readVariables : IO (List (String × String)) :=
  ["PATH", "HOME", "TMPDIR"].filterMapM fun name => do
    return (← IO.getEnv name).map fun value => (name, value)

/-- Waits for an analyzer that never ends. -/
partial def waitForEver : IO UInt32 := do
  IO.sleep 1000000
  waitForEver

def readWorld (arguments : List String) : IO World := do
  let current := (← IO.currentDir).toString
  let programFolder ← programFolder?
  let temporaryFolder := (← IO.getEnv "TMPDIR").getD "/tmp"
  let start : World :=
    ⟨Simulation.Tool.systemFiles, pathNames current, programFolder, temporaryFolder⟩
  let start := start.put (pathNames (start.absolute temporaryFolder)) (.folder [])
  (programFolder.toList ++ current :: arguments).foldlM addTree start

end Findings

def main (arguments : List String) : IO UInt32 := do
  let world ← Findings.readWorld arguments
  let system := ⟨"linux", Findings.Simulation.launcher (← Findings.readVariables)⟩
  match Findings.CommandLine.run system arguments world with
  | (some outcome, _) =>
    IO.print outcome.stdout
    IO.eprint outcome.stderr
    return UInt32.ofNat outcome.exitCode
  | (none, _) => Findings.waitForEver
