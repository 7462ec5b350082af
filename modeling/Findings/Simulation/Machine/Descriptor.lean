import Findings.Simulation.Files
import Findings.Simulation.Machine.Program

/-!
Contract: reading and writing through descriptors.

Owns:
- opening paths, and leading descriptors to what was opened;
- pipes, whose reader waits for octets and whose writer waits for space;
- reading and writing at the place of an open file.

Whoever writes to a pipe that nobody can read is sent a signal.  A file that
was taken away can still be read and written by those who opened it.
-/

namespace Findings.Simulation

/-! ## Descriptors -/

namespace Process

def connect (process : Process) (descriptor : Nat) (channel : Option Channel) : Process :=
  let others := process.descriptors.filter (·.1 ≠ descriptor)
  { process with
    descriptors := match channel with
      | some channel => (descriptor, channel) :: others
      | none => others }

/-- Keeps what a descriptor is now, unless it was kept since the last frame of
kept descriptors was begun. -/
def hold (process : Process) (descriptor : Nat) : Process :=
  match process.held with
  | table :: tables =>
    if table.any (·.1 = descriptor) then
      process
    else
      let entry := (descriptor, process.descriptors.lookup descriptor)
      { process with held := (entry :: table) :: tables }
  | [] => process

def beginHolding (process : Process) : Process :=
  { process with held := [] :: process.held }

/-- Makes descriptors what they were when they began to be kept. -/
def restoreHeld (process : Process) : Process :=
  match process.held with
  | table :: tables =>
    table.foldl (fun process entry => process.connect entry.1 entry.2)
      { process with held := tables }
  | [] => process

def forgetHeld (process : Process) : Process :=
  { process with held := process.held.tail }

end Process

/-! ## Opening -/

inductive OpenMode where
  | read
  /-- A file is made, or made empty. -/
  | write
  | append
  | readWrite
  /-- A file is made that is not there. -/
  | fresh
deriving DecidableEq, Repr

namespace Machine

/-- Adds an open file, and gives the channel to it. -/
def addFile (machine : Machine) (location : List String) (mode : OpenMode) : Channel × Machine :=
  let (number, machine) := machine.takeNumber
  let file : OpenFile := {
    location := location
    offset := 0
    appends := mode == .append
    isRead := mode == .read || mode == .readWrite
    isWritten := mode != .read
    detached := none }
  (.file number, machine.putFile number file)

def putNode (machine : Machine) (location : List String) (node : Node) : Machine :=
  { machine with root := machine.root.put location node }

def openLocation (machine : Machine) (location : List String) (mode : OpenMode) :
    Except SystemFault (Channel × Machine) :=
  match machine.root.at? location with
  | some (.folder _) =>
    if mode = .read then .ok (machine.addFile location mode) else .error .isFolder
  | some (.file _ permissions) =>
    match mode with
    | .write => .ok ((machine.putNode location (.file [] permissions)).addFile location mode)
    | .fresh => .error .present
    | _ => .ok (machine.addFile location mode)
  | some (.device .terminal) => .error .noDevice
  | some (.device (.descriptor number)) =>
    match machine.channel? number with
    | some (.file opened) =>
      match machine.files.lookup opened with
      | some file => .ok (machine.addFile file.location mode)
      | none => .error .missing
    | some channel => .ok (channel, machine)
    | none => .error .missing
  | some (.device device) => .ok (.device device, machine)
  | some (.link _) => .error .tooManyLinks
  | none => .error .missing

def openPath (path : String) (mode : OpenMode) (machine : Machine) :
    Except SystemFault (Channel × Machine) := do
  let world := machine.world
  match world.resolve true path with
  | .ok location => machine.openLocation location mode
  | .error fault =>
    if mode = .read || fault ≠ .missing then
      .error fault
    else if path.toList.getLast? = some '/' then
      .error .isFolder
    else
      let location ← world.resolveNew path
      return (machine.putNode location (.file [] .readable)).addFile location mode

def makePipe (machine : Machine) : Nat × Machine :=
  let (number, machine) := machine.takeNumber
  (number, machine.putPipe number .empty)

/-! ## Open files -/

def contentOf (machine : Machine) (file : OpenFile) : Except SystemFault (List UInt8) :=
  match file.detached with
  | some content => .ok content
  | none =>
    match machine.root.at? file.location with
    | some (.file content _) => .ok content
    | some (.folder _) => .error .isFolder
    | _ => .ok []

/-- Lets those who opened the file at a location keep it when it is taken away
from there. -/
def detach (machine : Machine) (location : List String) : Machine :=
  let detached (file : OpenFile) : OpenFile :=
    if file.location = location && file.detached.isNone then
      { file with detached := some ((machine.contentOf file).toOption.getD []) }
    else
      file
  { machine with files := machine.files.map fun (number, file) => (number, detached file) }

def eraseNode (machine : Machine) (location : List String) : Machine :=
  let machine := machine.detach location
  { machine with root := machine.root.erase location }

/-- A content with octets put at a place; a gap in front is filled with
zeros. -/
def overlay (content : List UInt8) (offset : Nat) (octets : List UInt8) : List UInt8 :=
  content.take offset ++ List.replicate (offset - content.length) 0 ++ octets
    ++ content.drop (offset + octets.length)

def writeFile (machine : Machine) (number : Nat) (file : OpenFile) (octets : List Char) :
    Machine :=
  let content := (machine.contentOf file).toOption.getD []
  let offset := if file.appends then content.length else file.offset
  let content := overlay content offset (toBytes octets)
  let moved := { file with offset := offset + octets.length }
  match file.detached, machine.root.at? file.location with
  | none, some (.file _ permissions) =>
    (machine.putNode file.location (.file content permissions)).putFile number moved
  | none, _ => machine.putFile number moved
  | some _, _ => machine.putFile number { moved with detached := some content }

/-! ## Writing -/

/-- The signal that tells a process that nobody reads what it writes. -/
def pipeSignal : Nat := 13

/-- Tells the process that acts that nobody reads what it writes. -/
def breakPipe (machine : Machine) : Machine :=
  match machine.self? with
  | some process =>
    if process.ignored.contains pipeSignal then machine
    else if process.caught.contains pipeSignal then
      machine.changeSelf (·.notify pipeSignal)
    else machine.finish process.number (.killed pipeSignal)
  | none => machine

/-- The greatest number of octets that are put into a pipe at once or not at
all. -/
def atomicSize : Nat := 4096

/-- Writes octets to a pipe, at least one of them, and gives the number. -/
def writePipe (machine : Machine) (number : Nat) (octets : List Char) :
    Attempt (Except SystemFault Nat) :=
  if !machine.isHeld (.readEnd number) then
    .done (.error .brokenPipe) machine.breakPipe
  else
    let pipe := (machine.pipes.lookup number).getD .empty
    let space := Pipe.capacity - pipe.size
    let size := octets.length
    if space = 0 || (size ≤ atomicSize && space < size) then
      .blocked none
    else
      let taken := octets.take space
      let count := min space size
      .done (.ok count)
        (machine.putPipe number ⟨pipe.chunks ++ [taken], pipe.size + count⟩)

/-- Writes octets to a descriptor and gives the number of those that were
written. -/
def writeSome (descriptor : Nat) (octets : List Char) (machine : Machine) :
    Attempt (Except SystemFault Nat) :=
  match machine.channel? descriptor with
  | none | some (.readEnd _) => .done (.error .badDescriptor) machine
  | some (.stream stream) =>
    .done (.ok octets.length)
      { machine with writes := ⟨stream, toBytes octets⟩ :: machine.writes }
  | some (.writeEnd number) => machine.writePipe number octets
  | some (.device .full) => .done (.error .noSpace) machine
  | some (.device _) => .done (.ok octets.length) machine
  | some (.file number) =>
    match machine.files.lookup number with
    | some file =>
      if file.isWritten then .done (.ok octets.length) (machine.writeFile number file octets)
      else .done (.error .badDescriptor) machine
    | none => .done (.error .badDescriptor) machine

/-! ## Reading -/

/-- The octets at the front of chunks, at most a number of them and not more
than those up to one that stops, with the chunks behind them. -/
def takeChunks (stops : Char → Bool) : Nat → List (List Char) → List Char × List (List Char)
  | _, [] => ([], [])
  | limit, chunk :: more =>
    let before := (chunk.take limit).takeWhile fun c => !stops c
    let stopped := before.length < (chunk.take limit).length
    let taken := if stopped then chunk.take (before.length + 1) else before
    let rest := chunk.drop taken.length
    if stopped || taken.length = limit || !rest.isEmpty then
      (taken, if rest.isEmpty then more else rest :: more)
    else
      let (further, rest) := takeChunks stops (limit - taken.length) more
      (taken ++ further, rest)

/-- Reads octets from a descriptor: what is there, at most a number of octets
and not more than those up to one that stops.  At the end there is nothing. -/
def readUpTo (stops : Char → Bool) (descriptor limit : Nat) (machine : Machine) :
    Attempt (Except SystemFault (List Char)) :=
  match machine.channel? descriptor with
  | none | some (.stream _) | some (.writeEnd _) => .done (.error .badDescriptor) machine
  | some (.device .zero) | some (.device .full) =>
    .done (.ok (List.replicate limit '\x00')) machine
  | some (.device _) => .done (.ok []) machine
  | some (.readEnd number) =>
    let pipe := (machine.pipes.lookup number).getD .empty
    if pipe.size = 0 then
      if machine.isHeld (.writeEnd number) then .blocked none else .done (.ok []) machine
    else
      let (octets, chunks) := takeChunks stops limit pipe.chunks
      .done (.ok octets) (machine.putPipe number ⟨chunks, pipe.size - octets.length⟩)
  | some (.file number) =>
    match machine.files.lookup number with
    | none => .done (.error .badDescriptor) machine
    | some file =>
      if !file.isRead then
        .done (.error .badDescriptor) machine
      else
        match machine.contentOf file with
        | .error fault => .done (.error fault) machine
        | .ok content =>
          let octets := ofBytes ((content.drop file.offset).take limit)
          let (octets, _) := takeChunks stops limit [octets]
          .done (.ok octets)
            (machine.putFile number { file with offset := file.offset + octets.length })

/-- Moves the place of an open file that a descriptor leads to back. -/
def stepBack (descriptor count : Nat) (machine : Machine) : Machine :=
  match machine.channel? descriptor with
  | some (.file number) =>
    match machine.files.lookup number with
    | some file => machine.putFile number { file with offset := file.offset - count }
    | none => machine
  | _ => machine

end Machine

/-! ## Actions -/

namespace Action

def blockSize : Nat := 65536

/-- Reads octets from a descriptor; at the end there is nothing. -/
def read (descriptor limit : Nat) : Action (Except SystemFault (List Char)) :=
  perform (Machine.readUpTo (fun _ => false) descriptor limit)

def write (descriptor : Nat) (octets : List Char) : Action (Except SystemFault Unit) :=
  repeated
    (fun octets => do
      if octets.isEmpty then
        return .inr (.ok ())
      else
        match ← perform (Machine.writeSome descriptor octets) with
        | .ok count => return .inl (octets.drop count)
        | .error fault => return .inr (.error fault))
    maxRounds octets

/-- How long it takes to move an octet of a full block, in nanoseconds. -/
def octetDuration : Nat := 20

/-- Reads everything that is left, block by block, with a state that each block
changes. -/
def eachBlock {σ : Type} (descriptor : Nat) (step : σ → List Char → Action σ) (state : σ) :
    Action (Except SystemFault σ) :=
  repeated
    (fun state => do
      match ← read descriptor blockSize with
      | .error fault => return .inr (.error fault)
      | .ok [] => return .inr (.ok state)
      | .ok octets =>
        if octets.length = blockSize then
          sleep (blockSize * octetDuration)
        return .inl (← step state octets))
    maxRounds state

def readAll (descriptor : Nat) : Action (Except SystemFault (List Char)) := do
  let blocks ← eachBlock descriptor
    (fun (blocks : List (List Char)) block => return block :: blocks) []
  return blocks.map fun blocks => blocks.reverse.flatten

def changeSelf (change : Process → Process) : Action Unit :=
  update (Machine.changeSelf · change)

def openPath (path : String) (mode : OpenMode) : Action (Except SystemFault Channel) :=
  perform fun machine =>
    match machine.openPath path mode with
    | .ok (channel, machine) => .done (.ok channel) machine
    | .error fault => .done (.error fault) machine

end Action

end Findings.Simulation
