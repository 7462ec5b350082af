import Findings.Dictionary
import Findings.Files.Mode

/-!
Contract: trees of files.

Owns:
- `Node`, a file, a link, a device or a folder of named nodes;
- looking a location up, putting a node there and taking it away.

A location is the list of names that leads to a node; links on the way are not
followed.
-/

namespace Findings

/-- What reads and writes without a file. -/
inductive Device where
  /-- Gives nothing and takes everything. -/
  | null
  /-- Gives octets of zero for ever and takes everything. -/
  | zero
  /-- Gives octets of zero for ever and takes nothing. -/
  | full
  /-- A terminal, which is not there. -/
  | terminal
  /-- Whatever a descriptor of the process leads to. -/
  | descriptor (number : Nat)
deriving DecidableEq, Repr

inductive Node where
  | file (content : List UInt8) (mode : Mode)
  | link (target : String)
  | device (device : Device)
  | folder (entries : List (String × Node))

namespace Node

def entries : Node → List (String × Node)
  | folder entries => entries
  | file .. | link _ | device _ => []

def isExecutable : Node → Bool
  | file _ mode => mode.isExecutable
  | link _ | device _ | folder _ => false

def at? : Node → List String → Option Node
  | node, [] => some node
  | node, name :: more =>
    match node.entries.lookup name with
    | some inner => inner.at? more
    | none => none

/-- Puts a node at a location.  Folders on the way are made where there is
nothing; below anything but a folder nothing is put. -/
def put : Node → List String → Node → Node
  | _, [], node => node
  | folder entries, name :: more, node =>
    folder (Dictionary.put name (put ((entries.lookup name).getD (folder [])) more node) entries)
  | other, _ :: _, _ => other

/-- Takes the node at a location away. -/
def erase : Node → List String → Node
  | folder entries, [name] => folder (entries.filter (·.1 ≠ name))
  | folder entries, name :: more =>
    match entries.lookup name with
    | some inner => folder (Dictionary.put name (inner.erase more) entries)
    | none => folder entries
  | other, _ => other

end Node

end Findings
