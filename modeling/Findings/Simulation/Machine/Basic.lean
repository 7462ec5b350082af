import Findings.Files.World
import Findings.Process.Capture

/-!
Contract: a machine with processes.

Owns:
- `Process`, with its descriptors, its folder and what it does about signals;
- pipes and open files, which processes share;
- `Machine`, the processes with the files and the clock;
- the end of a process.

Time passes only where nobody can do anything.  What is written to a stream is
captured at once.

An octet is a character whose number is below 256.
-/

namespace Findings.Simulation

/-! ## Octets -/

/-- The octets of a sequence of characters, each of which is one. -/
def toBytes (octets : List Char) : List UInt8 :=
  octets.map fun c => c.toNat.toUInt8

def ofBytes (bytes : List UInt8) : List Char :=
  bytes.map fun octet => Char.ofNat octet.toNat

def octetsOf (text : String) : List Char :=
  ofBytes (Text.utf8 text.toList)

def textOf (octets : List Char) : String :=
  String.ofList (Text.decodeLossy (toBytes octets))

/-! ## Descriptors -/

inductive Channel where
  /-- To a stream that is captured. -/
  | stream (stream : Stream)
  | readEnd (pipe : Nat)
  | writeEnd (pipe : Nat)
  | file (number : Nat)
  | device (device : Device)
deriving DecidableEq, Repr

abbrev Descriptors := List (Nat × Channel)

/-- What some descriptors were before they were changed. -/
abbrev HeldDescriptors := List (Nat × Option Channel)

structure OpenFile where
  location : List String
  /-- The number of octets in front of the place that is read or written
  next. -/
  offset : Nat
  /-- Whether everything is written behind the end. -/
  appends : Bool
  isRead : Bool
  isWritten : Bool
  /-- The content of a file that is no longer at its location. -/
  detached : Option (List UInt8)

/-- What was written to a pipe and is not read yet. -/
structure Pipe where
  chunks : List (List Char)
  /-- The number of octets in the chunks. -/
  size : Nat

namespace Pipe

def empty : Pipe := ⟨[], 0⟩

def capacity : Nat := 65536

end Pipe

/-! ## Processes -/

inductive Ending where
  | exited (status : Nat)
  | killed (signal : Nat)
deriving DecidableEq, Repr

structure Process where
  number : Nat
  parent : Nat
  /-- The location of its folder. -/
  folder : List String
  descriptors : Descriptors
  /-- Descriptors that are kept open in order to come back to them, those that
  come back first at the front. -/
  held : List HeldDescriptors
  ignored : List Nat
  caught : List Nat
  /-- The signals that were caught and not looked at. -/
  pending : List Nat
  isStopped : Bool
  /-- A signal that ends the process as soon as it is its turn. -/
  doom? : Option Nat
  ending? : Option Ending

structure Machine where
  root : Node
  /-- The number of nanoseconds since the start. -/
  clock : Nat
  processes : List Process
  pipes : List (Nat × Pipe)
  files : List (Nat × OpenFile)
  /-- What was written to the streams, last first. -/
  writes : List StreamWrite
  /-- The first number that no process, pipe or file has. -/
  fresh : Nat
  /-- The process that acts. -/
  active : Nat

/-- The process that adopts those whose parent has ended. -/
def adoptiveParent : Nat := 1

namespace Machine

/-! ## Looking up -/

def process? (machine : Machine) (number : Nat) : Option Process :=
  machine.processes.find? (·.number = number)

def change (machine : Machine) (number : Nat) (step : Process → Process) : Machine :=
  { machine with
    processes := machine.processes.map fun process =>
      if process.number = number then step process else process }

def self? (machine : Machine) : Option Process :=
  machine.process? machine.active

def changeSelf (machine : Machine) (step : Process → Process) : Machine :=
  machine.change machine.active step

/-- The channel of a descriptor of the process that acts. -/
def channel? (machine : Machine) (descriptor : Nat) : Option Channel :=
  machine.self?.bind fun process => process.descriptors.lookup descriptor

def takeNumber (machine : Machine) : Nat × Machine :=
  (machine.fresh, { machine with fresh := machine.fresh + 1 })

def world (machine : Machine) : World where
  root := machine.root
  current := (machine.self?.map Process.folder).getD []
  programFolder := "/usr/bin"
  temporaryFolder := "/tmp"

/-- Puts an open file in the place of the one of its number. -/
def putFile (machine : Machine) (number : Nat) (file : OpenFile) : Machine :=
  { machine with files := (number, file) :: machine.files.filter (·.1 ≠ number) }

/-- Puts a pipe in the place of the one of its number. -/
def putPipe (machine : Machine) (number : Nat) (pipe : Pipe) : Machine :=
  { machine with pipes := (number, pipe) :: machine.pipes.filter (·.1 ≠ number) }

end Machine

/-! ## Channels in use -/

/-- Whether a process can use a channel, now or later. -/
def Process.holds (process : Process) (channel : Channel) : Bool :=
  process.ending?.isNone
    && (process.descriptors.any (fun entry => entry.2 == channel)
      || process.held.any fun table => table.any fun entry => entry.2 == some channel)

def Machine.isHeld (machine : Machine) (channel : Channel) : Bool :=
  machine.processes.any fun process => process.holds channel

/-! ## Ends -/

/-- The signal that tells a process of the end of a child. -/
def childSignal : Nat := 17

def Process.notify (process : Process) (signal : Nat) : Process :=
  if process.caught.contains signal && !process.pending.contains signal then
    { process with pending := process.pending ++ [signal] }
  else
    process

/-- Ends a process, unless it has ended before.  Its children are adopted, and
its parent is told. -/
def Machine.finish (machine : Machine) (number : Nat) (ending : Ending) : Machine :=
  match machine.process? number with
  | some process =>
    if process.ending?.isSome then
      machine
    else
      let ended (other : Process) : Process :=
        if other.number = number then
          { other with descriptors := [], held := [], pending := [], ending? := some ending }
        else if other.number = process.parent then
          other.notify childSignal
        else if other.parent = number then
          { other with parent := adoptiveParent }
        else
          other
      { machine with processes := machine.processes.map ended }
  | none => machine

end Findings.Simulation
