import Findings.Simulation.Machine.Signal

/-!
Contract: letting processes act.

Owns:
- the order in which processes act: each one goes on until it is blocked, the
  older ones first, and a child is younger than all others;
- the clock, which moves on only when all processes are blocked;
- `Machine.run`, which stops once the first process has ended and nobody can
  write to a captured stream any more, or at a horizon.
-/

namespace Findings.Simulation

structure Task where
  number : Nat
  program : Program

structure BlockedTask where
  task : Task
  until? : Option Nat

namespace Machine

def hasEnded (machine : Machine) (number : Nat) : Bool :=
  match machine.process? number with
  | some process => process.ending?.isSome
  | none => true

def doomOf? (machine : Machine) (number : Nat) : Option Nat :=
  (machine.process? number).bind fun process =>
    process.doom?.bind fun signal =>
      if process.isStopped && signal ≠ killSignal then none else some signal

def isStopped (machine : Machine) (number : Nat) : Bool :=
  match machine.process? number with
  | some process => process.isStopped
  | none => false

def isComplete (machine : Machine) (first : Nat) : Bool :=
  machine.hasEnded first
    && !machine.isHeld (.stream .stdout) && !machine.isHeld (.stream .stderr)

def nextTime (blocked : List BlockedTask) : Option Nat :=
  (blocked.filterMap BlockedTask.until?).min?

/-- Lets tasks act: the ready ones in order, and then, if anything was done, or
once time has passed, the blocked ones, which are given last first.  The first
process is the one that is waited for; at the horizon nothing goes on. -/
def runTasks (first : Nat) (horizon : Option Nat) :
    Nat →
    (ready : List Task) →
    (blocked : List BlockedTask) →
    (moved : Bool) →
    Machine →
    Machine × Option Nat
  | 0, _, _, _, machine => (machine, none)
  | bound + 1, [], blocked, moved, machine =>
    let again (machine : Machine) : Machine × Option Nat :=
      runTasks first horizon bound (blocked.reverse.map BlockedTask.task) [] false machine
    if machine.isComplete first then
      (machine, some machine.clock)
    else if moved then
      again machine
    else
      match nextTime blocked with
      | none => (machine, none)
      | some time =>
        if horizon.any (· ≤ time) then (machine, none)
        else again { machine with clock := max machine.clock time }
  | bound + 1, task :: more, blocked, moved, machine =>
    if machine.hasEnded task.number then
      runTasks first horizon bound more blocked true machine
    else
      match machine.doomOf? task.number, machine.isStopped task.number, task.program with
      | some signal, _, _ =>
        runTasks first horizon bound more blocked true
          (machine.finish task.number (.killed signal))
      | none, true, _ =>
        runTasks first horizon bound more (⟨task, none⟩ :: blocked) moved machine
      | none, false, .ended ending =>
        runTasks first horizon bound more blocked true (machine.finish task.number ending)
      | none, false, .step act =>
        match act { machine with active := task.number } with
        | .blocked time =>
          runTasks first horizon bound more (⟨task, time⟩ :: blocked) moved machine
        | .goOn machine next =>
          runTasks first horizon bound (⟨task.number, next⟩ :: more) blocked true machine
        | .forked machine number child next =>
          runTasks first horizon bound (⟨task.number, next⟩ :: (more ++ [⟨number, child⟩]))
            blocked true machine

def maxSteps : Nat := 60000000

def start
    (root : Node)
    (folder : List String)
    (descriptors : Descriptors)
    (number : Nat) :
    Machine where
  root := root
  clock := 0
  processes := [{
    number := number
    parent := adoptiveParent
    folder := folder
    descriptors := descriptors
    held := []
    ignored := []
    caught := []
    pending := []
    isStopped := false
    doom? := none
    ending? := none }]
  pipes := []
  files := []
  writes := []
  fresh := number + 1
  active := number

/-- Lets the only process of a machine do something, and gives the machine and
the time when everything that is captured is there, if that comes before the
horizon. -/
def run (machine : Machine) (program : Program) (horizon : Option Nat) : Machine × Option Nat :=
  runTasks machine.active horizon maxSteps [⟨machine.active, program⟩] [] false machine

/-- What a machine did, as it is seen from outside. -/
def timeline (machine : Machine) (first : Nat) (completed : Option Nat) : Timeline where
  writes := machine.writes.reverse
  exitCode :=
    match (machine.process? first).bind Process.ending? with
    | some (.exited status) => some status
    | _ => none
  completed := completed

end Machine

end Findings.Simulation
