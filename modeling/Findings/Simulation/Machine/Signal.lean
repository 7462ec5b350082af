import Findings.Simulation.Machine.Program

/-!
Contract: signals, and the ends of children.

Owns:
- the names and numbers of signals, what they do by themselves and the wording
  of the ends that they cause;
- sending a signal to a process, which another process only notices when it is
  its turn;
- waiting for children.

Does not own: what a process does about a signal that it catches.
-/

namespace Findings.Simulation

/-! ## Names -/

/-- The names of signals, by their numbers from one on. -/
def signalNames : List String :=
  ["HUP", "INT", "QUIT", "ILL", "TRAP", "ABRT", "BUS", "FPE", "KILL", "USR1", "SEGV", "USR2",
    "PIPE", "ALRM", "TERM", "16", "CHLD", "CONT", "STOP", "TSTP", "TTIN", "TTOU", "URG",
    "XCPU", "XFSZ", "VTALRM", "PROF", "WINCH", "IO", "PWR", "SYS"]

/-- The first of the signals that have no meaning of their own. -/
def firstRealTimeSignal : Nat := 34

def lastSignal : Nat := 64

def signalName (signal : Nat) : String :=
  if signal = 0 then "EXIT"
  else
    match signalNames[signal - 1]? with
    | some name => name
    | none =>
      if signal = firstRealTimeSignal then "RTMIN"
      else if signal = lastSignal then "RTMAX"
      else if signal < firstRealTimeSignal then toString signal
      else if signal ≤ 49 then "RTMIN+" ++ toString (signal - firstRealTimeSignal)
      else "RTMAX-" ++ toString (lastSignal - signal)

/-- The signal of a name in capital letters; zero stands for the end of a
script. -/
def signalOfName? (name : String) : Option Nat :=
  (List.range (lastSignal + 1)).find? fun signal => signalName signal == name

def signalWording (signal : Nat) : String :=
  let wordings := [
    "Hangup", "Interrupt", "Quit", "Illegal instruction", "Trace/breakpoint trap", "Aborted",
    "Bus error", "Floating point exception", "Killed", "User defined signal 1",
    "Segmentation fault", "User defined signal 2", "Broken pipe", "Alarm clock", "Terminated",
    "Stack fault", "Child exited", "Continued", "Stopped (signal)", "Stopped",
    "Stopped (tty input)", "Stopped (tty output)", "Urgent I/O condition",
    "CPU time limit exceeded", "File size limit exceeded", "Virtual timer expired",
    "Profiling timer expired", "Window changed", "I/O possible", "Power failure",
    "Bad system call"]
  match if signal = 0 then none else wordings[signal - 1]? with
  | some wording => wording
  | none =>
    if firstRealTimeSignal ≤ signal then
      "Real-time signal " ++ toString (signal - firstRealTimeSignal)
    else
      "Unknown signal " ++ toString signal

/-! ## Sending -/

/-- The signal that ends a process whatever it does about signals. -/
def killSignal : Nat := 9

/-- The signal that stops a process whatever it does about signals. -/
def stopSignal : Nat := 19

def continueSignal : Nat := 18

def harmlessSignals : List Nat := [childSignal, continueSignal, 23, 28]

def stoppingSignals : List Nat := [stopSignal, 20, 21, 22]

namespace Machine

def deliver (machine : Machine) (process : Process) (signal : Nat) : Machine :=
  let machine :=
    if signal = continueSignal then
      machine.change process.number fun process => { process with isStopped := false }
    else machine
  let isForced := signal = killSignal || signal = stopSignal
  if !isForced && process.ignored.contains signal then machine
  else if !isForced && process.caught.contains signal then
    machine.change process.number (·.notify signal)
  else if stoppingSignals.contains signal then
    machine.change process.number fun process => { process with isStopped := true }
  else if harmlessSignals.contains signal then machine
  else if process.number = machine.active then
    machine.finish process.number (.killed signal)
  else
    machine.change process.number fun process => { process with doom? := some signal }

/-- Sends a signal to a process; zero only asks whether it is there. -/
def send (machine : Machine) (number signal : Nat) : Except SystemFault Machine :=
  match machine.process? number with
  | none => .error .noProcess
  | some process =>
    if signal = 0 || process.ending?.isSome then .ok machine
    else .ok (machine.deliver process signal)

/-! ## Children -/

def forget (machine : Machine) (number : Nat) : Machine :=
  { machine with processes := machine.processes.filter (·.number ≠ number) }

/-- Waits for a child to end; a signal that was caught ends the waiting if it
may. -/
def waitFor (isInterruptible : Bool) (number : Nat) (machine : Machine) :
    Attempt (Option Ending) :=
  let isInterrupted :=
    isInterruptible && (machine.self?.map fun process => !process.pending.isEmpty).getD false
  match machine.process? number with
  | none => .done none machine
  | some process =>
    match process.ending? with
    | some ending => .done (some ending) (machine.forget number)
    | none => if isInterrupted then .done none machine else .blocked none

/-- Takes the signals that the process that acts caught and has not looked
at. -/
def takePending (machine : Machine) : List Nat × Machine :=
  match machine.self? with
  | some process =>
    if process.pending.isEmpty then ([], machine)
    else (process.pending, machine.changeSelf fun process => { process with pending := [] })
  | none => ([], machine)

end Machine

inductive Disposition where
  | default
  | ignore
  | catch
deriving DecidableEq, Repr

def Process.dispose (process : Process) (signal : Nat) (disposition : Disposition) : Process :=
  let ignored := process.ignored.filter (· ≠ signal)
  let caught := process.caught.filter (· ≠ signal)
  match disposition with
  | .default => { process with ignored := ignored, caught := caught }
  | .ignore => { process with ignored := signal :: ignored, caught := caught }
  | .catch => { process with ignored := ignored, caught := signal :: caught }

/-- The first descriptor that another program is not given. -/
def firstPrivateDescriptor : Nat := 10

def Process.renew (process : Process) : Process :=
  { process with
    descriptors := process.descriptors.filter (·.1 < firstPrivateDescriptor)
    held := []
    caught := []
    pending := [] }

namespace Action

def waitFor (isInterruptible : Bool) (number : Nat) : Action (Option Ending) :=
  perform (Machine.waitFor isInterruptible number)

def poll (number : Nat) : Action (Option Ending) :=
  perform fun machine =>
    match machine.waitFor false number with
    | .done ending machine => .done ending machine
    | .blocked _ => .done none machine

def send (number signal : Nat) : Action (Except SystemFault Unit) :=
  perform fun machine =>
    match machine.send number signal with
    | .ok machine => .done (.ok ()) machine
    | .error fault => .done (.error fault) machine

end Action

end Findings.Simulation
