import Findings.Simulation.Shell.Builtin
import Findings.Simulation.Shell.Job

/-!
Contract: the parts of the shell that control other processes.

Owns:
- showing jobs and waiting for them;
- sending signals to processes.

Does not own: starting processes.
-/

namespace Findings.Simulation.Shell

/-! ## Jobs -/

/-- The line that shows a job, where a plus sign marks the latest one and a minus
sign the one before it. -/
def jobLine (mark : Char) (showsNumber : Bool) (job : Job) : List Char :=
  let start := '[' :: digitsOf job.number ++ [']', ' ', mark, ' ']
  let first := job.children.head?.map Child.process
  let start := if showsNumber then start ++ digitsOf (first.getD 0) ++ [' '] else start
  let line := start ++ job.wording
  let line := line ++ List.replicate (33 - line.length) ' '
  if showsNumber then
    line ++ (job.children.drop 1).flatMap fun child =>
      let next := " |\n".toList ++ List.replicate 6 ' ' ++ digitsOf child.process ++ [' ']
      next ++ List.replicate (36 - next.length) ' '
  else
    line ++ (job.children.drop 1).flatMap fun _ => [' ', '|', ' ']

/-- Prints jobs; those that are done are forgotten then. -/
def showJobs : Builtin := fun words => do
  let (options, operands) ← optionsOf ['l', 'p'] words
  Script.setStatus 0
  Script.reap none
  let mut chosen : List Job := (← get).jobs
  if !operands.isEmpty then
    chosen := []
    for operand in operands do
      chosen := chosen ++ [← Script.jobOf operand]
  for job in chosen do
    let latest := (← get).jobs
    let mark :=
      if latest.head?.any (·.number = job.number) then '+'
      else if (latest[1]?).any (·.number = job.number) then '-'
      else ' '
    match lastOption? options with
    | some 'p' =>
      Script.put (digitsOf ((job.children.head?.map Child.process).getD 0) ++ ['\n'])
    | option => Script.put (jobLine mark (option = some 'l') job ++ ['\n'])
    if job.isDone && lastOption? options ≠ some 'p' then
      Script.freeJob job.number

/-! ## Waiting -/

/-- The status of a script that stops waiting because of a signal. -/
def interruptedStatus : Script Nat := do
  let pending ← Script.observe fun machine =>
    ((machine.self?.map Process.pending).getD []).getLast?
  return signalStatus + pending.getD 0

/-- Waits for jobs one after the other, and gives the status of the last one that
there is. -/
def waitForJobs (status : Nat) : List (List Char) → Script Nat
  | [] => return status
  | word :: more => do
    let job ← match word with
      | '%' :: _ => pure (some (← Script.jobOf word))
      | word => do
        let process ← numberOperand word
        pure ((← get).jobs.find? fun job =>
          (job.children.getLast?.map Child.process) = some process)
    match job with
    | none => waitForJobs status more
    | some job =>
      if ← Script.awaitJob true job.number then
        Script.changeJob job.number fun job => { job with isAwaited := true }
        waitForJobs (← Script.jobStatus job.number) more
      else
        interruptedStatus

/-- Waits for all jobs, the latest first, and says whether they have ended. -/
def waitForAll : List Nat → Script Bool
  | [] => return true
  | number :: more => do
    let children := (((← get).jobs.find? (·.number = number)).map Job.children).getD []
    for child in children do
      if child.ending?.isNone then
        match ← (Action.waitFor true child.process : Action (Option Ending)) with
        | some ending => Script.noteEnding none child.process ending
        | none => return false
    Script.changeJob number fun job => { job with isAwaited := true }
    waitForAll more

def waitFor : Builtin := fun words => do
  match ← operandsOf words with
  | [] =>
    let jobs := (← get).jobs
    if ← waitForAll (jobs.map Job.number) then Script.setStatus 0
    else Script.setStatus (← interruptedStatus)
  | operands => Script.setStatus (← waitForJobs 127 operands)

/-- Refuses to bring a job to the front or to let it go on at the back, since the
script does not control its jobs. -/
def controlJob : Builtin := fun words => do
  let jobs := (← get).jobs
  match ← operandsOf words with
  | [] =>
    if jobs.isEmpty then Script.fail "No current job"
    else Script.fail "job (null) not created under job control"
  | word :: _ =>
    let _ ← Script.jobOf word
    Script.failOf ("job ".toList ++ word ++ " not created under job control".toList) 2

/-! ## Signals -/

def killUsage : String :=
  "Usage: kill [-s sigspec | -signum | -sigspec] [pid | job]... or\nkill -l [exitstatus]"

/-- Sends a signal to processes, one after the other.  A job counts as a group of
processes, of which there is none. -/
def sendAll (signal : Nat) : List (List Char) → Script Unit
  | [] => return
  | word :: more => do
    let sent ← match word with
      | '%' :: _ => do
        let _ ← Script.jobOf word
        pure (.error .noProcess)
      | '-' :: number => do
        let _ ← numberOperand number
        pure (.error .noProcess)
      | word => do
        let number ← numberOperand word
        (Action.send number signal : Action _)
    match sent with
    | .ok () => pure ()
    | .error fault =>
      Script.warn (fault.wording ++ "\n")
      Script.setStatus 1
    sendAll signal more

def listSignals : List (List Char) → Script Unit
  | [] =>
    Script.put ('0' :: '\n' :: (List.range lastSignal).flatMap fun signal =>
      (signalName (signal + 1)).toList ++ ['\n'])
  | word :: _ => do
    let number ← numberOperand word
    let signal := if 128 < number then number - 128 else number
    if 0 < signal && signal ≤ lastSignal then
      Script.put ((signalName signal).toList ++ ['\n'])
    else
      Script.failOf ("invalid signal number or exit status: ".toList ++ word) 2

/-- Sends a signal to processes, or prints the names of signals. -/
def kill : Builtin := fun words => do
  Script.setStatus 0
  let direct := match words with
    | ('-' :: word) :: rest => (signalOf? 1 word).map fun signal => (signal, rest)
    | _ => none
  match direct with
  | some (signal, targets) =>
    if targets.isEmpty then Script.fail killUsage else sendAll signal targets
  | none =>
    let (options, targets) ←
      if words.head?.any (·.head? == some '-') then optionsOf ['l', 's', ':'] words
      else pure ([], words)
    let mut signal := 15
    for (letter, given) in options do
      if letter = 's' then
        match signalOf? 1 given with
        | some found => signal := found
        | none => Script.failOf ("invalid signal number or name: ".toList ++ given) 2
    if options.any (·.1 = 'l') then listSignals targets
    else if targets.isEmpty then Script.fail killUsage
    else sendAll signal targets

/-- The parts of the shell that control other processes. -/
def controlBuiltins : List (String × Builtin) := [
  ("bg", controlJob),
  ("fg", controlJob),
  ("jobs", showJobs),
  ("kill", kill),
  ("wait", waitFor)]

end Findings.Simulation.Shell
