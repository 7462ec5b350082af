import Findings.Dictionary
import Findings.Registry.Spelling

/-!
Contract: the files that a host tracks, found by any spelling of their paths.

Owns:
- `TrackedFile`, a path with the handle that the host knows it by;
- `FileRegistry`, which maps normalized paths to handles; of two files whose
  paths normalize to the same one, the later is kept.

Does not own: where the files come from.
-/

namespace Findings

structure TrackedFile (η : Type) where
  path : String
  handle : η
deriving DecidableEq, Repr

/-- The handles of files by their normalized paths. -/
structure FileRegistry (η : Type) where
  files : Dictionary η

namespace FileRegistry

def empty {η : Type} : FileRegistry η :=
  ⟨.empty⟩

/-- Adds a file, in place of one whose path is another spelling of its own. -/
def insert {η : Type} (registry : FileRegistry η) (path : String) (handle : η) :
    FileRegistry η :=
  ⟨registry.files.insert (normalizePath path) handle⟩

def ofFiles {η : Type} (files : List (TrackedFile η)) : FileRegistry η :=
  ⟨.ofList (files.map fun file => (normalizePath file.path, file.handle))⟩

def get? {η : Type} (registry : FileRegistry η) (path : String) : Option η :=
  registry.files.get? (normalizePath path)

/-- The normalized path and the handle of a path in any spelling. -/
def lookup {η : Type} (registry : FileRegistry η) (path : String) : Option (String × η) :=
  (registry.get? path).map fun handle => (normalizePath path, handle)

def size {η : Type} (registry : FileRegistry η) : Nat :=
  registry.files.size

def isEmpty {η : Type} (registry : FileRegistry η) : Bool :=
  registry.files.entries.isEmpty

end FileRegistry

end Findings
