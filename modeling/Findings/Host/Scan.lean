import Findings.Files.World
import Findings.Host.Recording

/-!
Contract: the source files below a folder.

Owns:
- `Node.stops`, the files and folders that a walk through a tree comes by; links
  are not followed;
- the number of lines of a file: one for each line feed, and one for an
  unfinished line at the end, counted in 32 bits;
- `RecordingHost.scan`, a host that tracks the files with given suffixes, and
  `ScanFault`, why there is none.

A link is followed at the top only, and only to a folder.  The order of the
files is that of the folders.  Folders are opened and files read by their paths,
so a path that is too long ends the scan.
-/

namespace Findings

/-! ## Walks through a tree -/

/-- A place that a walk comes by, with the names that lead to it. -/
inductive Stop where
  | folder (names : List String)
  | file (names : List String)
deriving DecidableEq, Repr

mutual

/-- The places of a tree that a walk comes by; names come after `above`. -/
def Node.stops (above : List String) : Node → List Stop
  | .file .. => [.file above]
  | .link _ | .device _ => []
  | .folder entries => .folder above :: stopsOfEntries above entries

def stopsOfEntries (above : List String) : List (String × Node) → List Stop
  | [] => []
  | (name, node) :: more => node.stops (above ++ [name]) ++ stopsOfEntries above more

end

/-! ## Lines -/

/-- The number of lines of a file, modulo the numbers of 32 bits. -/
def lineCount (content : List UInt8) : UInt32 :=
  let ends := UInt32.ofNat (content.countP (· = 0x0A))
  match content.getLast? with
  | none | some 0x0A => ends
  | some _ => ends + 1

/-! ## Scans -/

inductive PathStyle where
  /-- By the names from the scanned folder on. -/
  | relative
  | absolute
deriving DecidableEq, Repr

/-- Why the files below a folder are not known. -/
inductive ScanFault where
  /-- A place on the way cannot be looked at. -/
  | walk (path : String) (fault : SystemFault)
  /-- A file cannot be read. -/
  | read (fault : SystemFault)
deriving DecidableEq, Repr

def ScanFault.message : ScanFault → String
  | walk path fault => "IO error for operation on " ++ path ++ ": " ++ fault.message
  | read fault => fault.message

def belowPath (top : String) (names : List String) : String :=
  names.foldl joinPath top

/-- Whether the extension of a path is one of the given suffixes, without the
dots at their front. -/
def hasSuffix (suffixes : List String) (path : String) : Bool :=
  (extension? path).any fun extension =>
    suffixes.any fun suffix =>
      suffix.toList.dropWhile (· = '.') = extension.toList

def trackedPath (style : PathStyle) (top : String) (names : List String) : String :=
  match style with
  | .relative => String.intercalate "/" names
  | .absolute => belowPath top names

namespace World

/-- The node that a scan starts from.  A link leads to a folder or to nothing
that is scanned. -/
def scanned (world : World) (top : String) : Except SystemFault Node := do
  let location ← world.resolve false top
  match world.root.at? location with
  | some (.link target) =>
    match ← world.find top with
    | .folder entries => .ok (.folder entries)
    | _ => .ok (.link target)
  | some node => .ok node
  | none => .error .missing

end World

namespace RecordingHost

/-- Goes on with a scan: a folder is opened, and a file is read and tracked if it
has one of the suffixes. -/
def visit (world : World) (top : String) (suffixes : List String) (style : PathStyle)
    (host : RecordingHost) : Stop → Except ScanFault RecordingHost
  | .folder names =>
    match world.find (belowPath top names) with
    | .ok _ => .ok host
    | .error fault => .error (.walk (belowPath top names) fault)
  | .file names =>
    if hasSuffix suffixes (belowPath top names) then
      match world.read (belowPath top names) with
      | .ok content => .ok (host.trackLines (trackedPath style top names) (lineCount content))
      | .error fault => .error (.read fault)
    else
      .ok host

/-- A host that tracks the files below a folder that have one of the
suffixes. -/
def scan (world : World) (language top : String) (suffixes : List String) (style : PathStyle) :
    Except ScanFault RecordingHost := do
  let node ← (world.scanned top).mapError (.walk top)
  (node.stops []).foldlM (visit world top suffixes style) (ofLanguage language)

end RecordingHost

end Findings
