import Findings.Simulation.Shell.Numeral
import Findings.Simulation.Shell.State

/-!
Contract: the processes that a shell starts.

Owns:
- starting a process that goes on with a script of its own;
- jobs, their numbers and the words that mean them;
- waiting for jobs, and noticing that processes have ended.

The number of a job that the script has waited for is given away again.
-/

namespace Findings.Simulation.Shell

/-! ## Endings -/

def signalStatus : Nat := 128

def statusOf : Ending → Nat
  | .exited status => status
  | .killed signal => signalStatus + signal

def quietSignals : List Nat := [2, 13]

namespace Job

def isDone (job : Job) : Bool :=
  job.children.all (·.ending?.isSome)

/-- The status of a job, which is that of its last process. -/
def status (job : Job) : Nat :=
  ((job.children.getLast?.bind Child.ending?).map statusOf).getD 0

def wording (job : Job) : List Char :=
  if job.isDone then
    match job.children.getLast?.bind Child.ending? with
    | some (.killed signal) => (signalWording signal).toList
    | some (.exited 0) | none => "Done".toList
    | some (.exited status) => "Done(".toList ++ digitsOf status ++ [')']
  else
    "Running".toList

def note (process : Nat) (ending : Ending) (job : Job) : Job :=
  { job with
    children := job.children.map fun child =>
      if child.process = process then { child with ending? := some ending } else child }

end Job

/-! ## Starting -/

/-- The state of a child of a shell: what is done on signals is forgotten, unless
they are ignored, and so are the jobs. -/
def State.child (shell : State) : State :=
  { shell with
    isChild := true
    traps := shell.traps.filter fun trap => trap.2.isEmpty
    jobs := [] }

/-- A child process of a shell: signals that the shell catches end it. -/
def Process.forget (process : Process) : Process :=
  { process with caught := [] }

namespace Script

/-- Adds a job without processes under the first number that is free, and gives
the number. -/
def newJob : Script Nat := do
  let jobs := (← get).jobs
  let isTaken (number : Nat) : Bool :=
    jobs.any fun job => job.number = number && !(job.isDone && job.isAwaited)
  let number := ((List.range (jobs.length + 1)).map (· + 1)).find? fun number => !isTaken number
  let number := number.getD (jobs.length + 1)
  modify fun shell =>
    { shell with jobs := ⟨number, [], false⟩ :: shell.jobs.filter (·.number ≠ number) }
  return number

def changeJob (number : Nat) (change : Job → Job) : Script Unit :=
  modify fun shell =>
    { shell with
      jobs := shell.jobs.map fun job => if job.number = number then change job else job }

def freeJob (number : Nat) : Script Unit :=
  modify fun shell => { shell with jobs := shell.jobs.filter (·.number ≠ number) }

/-- Starts a process of a job, which goes on as a script from a state, and gives
its number. -/
def spawn
    (job : Option Nat)
    (change : Process → Process)
    (child : State → Program) :
    Script Nat := do
  let shell ← get
  let number ← (Action.fork (fun process => change (Process.forget process))
    (child shell.child) : Action Nat)
  match job with
  | some job =>
    changeJob job fun job => { job with children := job.children ++ [⟨number, none⟩] }
  | none => return number
  return number

/-! ## Waiting -/

/-- Notes the end of a process, which is worth a line if it is waited for and a
signal ended it. -/
def noteEnding (awaited : Option Nat) (process : Nat) (ending : Ending) : Script Unit := do
  for job in (← get).jobs do
    if job.children.any (·.process = process) then
      changeJob job.number (·.note process ending)
      match ending with
      | .killed signal =>
        if awaited = some job.number && !quietSignals.contains signal then
          putError (signalWording signal).toList
      | .exited _ => return

/-- Notes the ends of all processes that have ended. -/
def reap (awaited : Option Nat) : Script Unit := do
  let processes := ((← get).jobs.flatMap Job.children).filter (·.ending?.isNone)
  for child in processes do
    match ← (Action.poll child.process : Action (Option Ending)) with
    | some ending => noteEnding awaited child.process ending
    | none => continue

/-- Waits for all processes of a job, and says whether they have ended. -/
def awaitJob (isInterruptible : Bool) (number : Nat) : Script Bool := do
  let children := (((← get).jobs.find? (·.number = number)).map Job.children).getD []
  let mut isOver := true
  for child in children do
    if child.ending?.isNone && isOver then
      match ← (Action.waitFor isInterruptible child.process : Action (Option Ending)) with
      | some ending => noteEnding (some number) child.process ending
      | none => isOver := false
  reap (some number)
  return isOver

def jobStatus (number : Nat) : Script Nat := do
  return (((← get).jobs.find? (·.number = number)).map Job.status).getD 0

/-- Waits for a job that nobody else can wait for, and gives its status. -/
def finishJob (number : Nat) : Script Nat := do
  let _ ← awaitJob false number
  let status ← jobStatus number
  freeJob number
  return status

/-! ## Naming -/

def jobOf (word : List Char) : Script Job := do
  let jobs := (← get).jobs
  let given (wording : String) (job : Option Job) : Script Job :=
    match job with
    | some job => return job
    | none => fail wording
  match word.drop 1 with
  | [] | ['+'] | ['%'] => given "No current job" jobs.head?
  | ['-'] => given "No previous job" jobs[1]?
  | text =>
    let named := jobs.find? fun job => digitsOf job.number = text
    match named with
    | some job => return job
    | none => failOf ("No such job: ".toList ++ word) 2

end Script

end Findings.Simulation.Shell
