import Findings.Simulation.Shell.Job

/-!
Contract: where the descriptors of a command lead.

Owns:
- `Opening`, a redirection whose target is known;
- opening files, or complaining about them;
- texts that are read through pipes.

Does not own: finding out the targets.
-/

namespace Findings.Simulation.Shell

/-! ## Openings -/

inductive Goal where
  | path (direction : Direction) (path : List Char)
  /-- Whatever another descriptor leads to, or nothing at all. -/
  | copy (descriptor : Option Nat)
  | document (number : Nat)

structure Opening where
  descriptor : Nat
  goal : Goal

/-- The descriptor that a word names; a hyphen names none. -/
def copiedDescriptor? (word : List Char) : Option (Option Nat) :=
  match word with
  | ['-'] => some none
  | [c] => if c.isDigit then some (some (c.toNat - '0'.toNat)) else none
  | _ => none

/-! ## Opening -/

def openWording (isMade : Bool) (fault : SystemFault) : String :=
  match fault with
  | .missing | .notFolder => if isMade then "Directory nonexistent" else "No such file"
  | fault => fault.wording

namespace Script

def failOpening {α : Type} (isMade : Bool) (path : List Char) (fault : SystemFault) : Script α :=
  failOf ((if isMade then "cannot create " else "cannot open ").toList ++ path
    ++ ": ".toList ++ (openWording isMade fault).toList) 2

def openPath (direction : Direction) (path : List Char) : Script Channel := do
  let opened (mode : OpenMode) : Script Channel := do
    match ← (Action.openPath (textOf path) mode : Action _) with
    | .ok channel => return channel
    | .error fault => failOpening (mode ≠ .read) path fault
  match direction with
  | .read => opened .read
  | .append => opened .append
  | .readWrite => opened .readWrite
  | .write =>
    if (← get).has 'C' then
      match (← world).find (textOf path) with
      | .ok (.file ..) => failOpening true path .present
      | .ok _ => opened .write
      | .error _ => opened .fresh
    else
      opened .write
  | .overwrite | .duplicate | .here _ => opened .write

/-- The greatest number of octets that are written to a pipe by the one who reads
them. -/
def ownPipeSize : Nat := 4096

/-- Makes a pipe that a text is read from.  Another process writes a long text. -/
def openText (text : List Char) : Script Channel := do
  let pipe ← (Action.perform fun machine =>
    let (pipe, machine) := machine.makePipe
    .done pipe machine : Action Nat)
  if text.length ≤ ownPipeSize then
    if !text.isEmpty then
      Action.update fun machine => machine.putPipe pipe ⟨[text], text.length⟩
  else
    let _ ← spawn none
      (fun process =>
        { process with descriptors := [(1, .writeEnd pipe)], held := [] })
      fun _ => Action.toProgram do
        let _ ← Action.write 1 text
        return 0
  return .readEnd pipe

/-- Leads a descriptor to a channel, or closes it, and keeps what it was. -/
def connect (descriptor : Nat) (channel : Option Channel) : Script Unit :=
  Action.changeSelf fun process => (process.hold descriptor).connect descriptor channel

/-- Leads a descriptor to whatever another one leads to. -/
def copyDescriptor (descriptor : Nat) (source : Option Nat) : Script Unit := do
  match source with
  | none => connect descriptor none
  | some source =>
    if source ≠ descriptor then
      match ← observe (·.channel? source) with
      | some channel => connect descriptor (some channel)
      | none =>
        Action.changeSelf fun process => (process.hold descriptor).connect descriptor none
        failOf (numberText source ++ ": ".toList ++ SystemFault.badDescriptor.wording.toList) 2

/-- Does something with redirections that are taken back behind it. -/
def holding {α : Type} (script : Script α) : Script α := do
  Action.changeSelf Process.beginHolding
  ensuring script (Action.changeSelf Process.restoreHeld)

end Script

end Findings.Simulation.Shell
