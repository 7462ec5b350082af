import Findings.Bundle.Error
import Findings.Files.World
import Findings.Zip.Archive

/-!
Contract: the analyzer of a bundle as a program that can be run.

Owns:
- `Binary`, a program that lies in a folder bundle or is a copy from an
  archive; a copy is owned and is taken away when it is released;
- `extract`, which finds the analyzer of a platform and makes a copy if it has
  to; the platform is looked up before any file is;
- the name of a copy: the stem and the extension of the entry, with a tag
  between them that makes it new.

A failed extraction leaves the files as they were.
-/

namespace Findings

/-! ## Programs -/

/-- A program that can be run. -/
structure Binary where
  path : String
  /-- The location of the copy that is owned, if it is one. -/
  copy : Option (List String)
deriving DecidableEq, Repr

def Binary.workingFolder (binary : Binary) : String :=
  parentPath binary.path

/-- Takes the copy of a program away, if it is one. -/
def World.release (world : World) (binary : Binary) : World :=
  match binary.copy with
  | some location => world.erase location
  | none => world

/-! ## Names of copies -/

/-- The tag of a number: its decimal digits, at least six of them. -/
def copyTag (n : Nat) : String :=
  let digits := Nat.toDigits 10 n
  String.ofList (List.replicate (6 - digits.length) '0' ++ digits)

def copyName (entry tag : String) : String :=
  (fileStem? entry).getD "analyzer" ++ "-" ++ tag
    ++ ((extension? entry).map ("." ++ ·)).getD ""

/-- A name of a copy that is not taken.  Among one more tags than there are
names at least one gives such a name. -/
def freshCopyName (entry : String) (taken : List String) : String :=
  let candidates := (List.range (taken.length + 1)).map fun n => copyName entry (copyTag n)
  (candidates.find? fun name => !taken.contains name).getD (copyName entry (copyTag 0))

/-! ## Extraction -/

def extractFromFolder (world : World) (bundle entry : String) :
    Except ExtractionError Binary :=
  let path := joinPath bundle entry
  if world.isFile path then
    match world.canonical path with
    | .ok path => .ok ⟨path, none⟩
    | .error fault => .error (.io (.system fault))
  else
    .error (.notFound entry bundle)

/-- An entry of the archive at a path, with its data as they are packed. -/
def packedEntry (world : World) (bundle entry : String) :
    Except ExtractionError (Zip.Entry × Zip.Archive.Method × ByteArray) := do
  let octets ← (world.read bundle).mapError (.io ∘ .system)
  let archive ← match Zip.Archive.ofOctets? octets with
    | some archive => .ok archive
    | none => .error (.archive .noDirectory)
  let found ← match archive.entry? entry with
    | some found => .ok found
    | none => .error (.notFound entry bundle)
  let packed ← (archive.packed found).mapError .archive
  return (found, packed)

/-- A copy of the data of an entry of an archive, in a folder for temporary
files. -/
def extractFromArchive (world : World) (bundle folder entry : String) :
    Except ExtractionError (Binary × World) := do
  let (found, method, data) ← packedEntry world bundle entry
  let folder := world.absolute folder
  let name := freshCopyName entry (world.names folder)
  let path := joinPath folder name
  let (made, location) ← (world.create folder name [] .ownerOnly).mapError fun fault =>
    .io (.creation fault path)
  match Zip.Archive.unpack? found method data with
  | none => .error (.io .damaged)
  | some content =>
    return (⟨path, some location⟩,
      made.put location (.file content Mode.ownerOnly.withExecution))

structure Bundle where
  path : String
  analyzers : Analyzers
  /-- The folder for copies. -/
  temporaryFolder : String

def Bundle.extract (bundle : Bundle) (osName : String) (world : World) :
    Except ExtractionError (Binary × World) := do
  let entry ← (bundle.analyzers.resolve osName).mapError .unsupported
  match world.find bundle.path with
  | .error fault => .error (.io (.system fault))
  | .ok (.folder _) =>
    return (← extractFromFolder world bundle.path entry, world)
  | .ok _ => extractFromArchive world bundle.path bundle.temporaryFolder entry

end Findings
