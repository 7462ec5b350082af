import Findings.Files.Fault
import Findings.Text.Duration

/-!
Contract: running an analyzer, seen from outside.

Owns:
- `Invocation`, the program with its arguments and its working folder;
- `Captured`, what it wrote and how it ended;
- the verdict: an analyzer reports errors by writing anything but line ends to
  its error stream, and in no other way;
- why a run has no result, with the wording.
-/

namespace Findings

/-! ## Invocations -/

structure Invocation where
  program : String
  arguments : List String
  workingFolder : String
deriving DecidableEq, Repr

/-- An analyzer that is to look at a folder. -/
def Invocation.analyze (program workingFolder target : String) : Invocation where
  program := program
  arguments := ["-json", "-dir", target]
  workingFolder := workingFolder

def Invocation.commandLine (invocation : Invocation) : List String :=
  invocation.program :: invocation.arguments

/-! ## Results -/

structure Captured where
  stdout : String
  stderr : String
  /-- The number that the program ended with, unless a signal ended it. -/
  exitCode : Option Nat
deriving DecidableEq, Repr

def isLineEnd (c : Char) : Bool :=
  c == '\n' || c == '\r'

/-- Whether the error stream holds anything but line ends. -/
def Captured.hasErrors (captured : Captured) : Bool :=
  captured.stderr.toList.any fun c => !isLineEnd c

/-- Why a run has no result. -/
inductive ProcessError where
  | launch (program : String) (fault : IoFault)
  /-- The program wrote an error text. -/
  | reported (text : String)
  /-- The program took more than a number of nanoseconds. -/
  | timedOut (limit : Nat)
  | drain (wording : String)
  | io (fault : IoFault)
deriving DecidableEq, Repr

def ProcessError.message : ProcessError → String
  | launch program fault => "Failed to launch '" ++ program ++ "': " ++ fault.message
  | reported text => "Analyzer reported errors: " ++ text
  | timedOut limit => "Analyzer timed out after " ++ Text.durationText limit
  | drain wording => "Output drain task failed: " ++ wording
  | io fault => "I/O error while running analyzer: " ++ fault.message

/-- A result, unless it reports errors. -/
def Captured.verdict (captured : Captured) : Except ProcessError Captured :=
  if captured.hasErrors then .error (.reported captured.stderr) else .ok captured

end Findings
