import Findings.Process.Capture

/-!
Contract: starting a program.

Owns:
- `Launcher`, what starts programs: whether a program is started, what it does
  then, and the surroundings that it leaves;
- `runAnalyzer`, a program that is started, captured and judged.

A run has no result if it has no limit and the program never ends.

Does not own: a launcher.  The laws hold of all of them.
-/

namespace Findings

/-- What comes of starting a program in surroundings of type `ω`, of which as much is
looked at as happens within a limit of nanoseconds. -/
abbrev Launcher (ω : Type) :=
  (limit : Option Nat) → Invocation → ω → Except IoFault (Timeline × ω)

variable {ω : Type}

/-- What is captured of a program, whatever it wrote, and the surroundings after
it. -/
def capture (launcher : Launcher ω) (limit : Option Nat) (invocation : Invocation) (before : ω) :
    Option (Except ProcessError Captured × ω) :=
  match launcher limit invocation before with
  | .error fault => some (.error (.launch invocation.program fault), before)
  | .ok (timeline, after) => (timeline.capture limit).map fun captured => (captured, after)

/-- What is captured of a program that reports no errors, and the surroundings after
it. -/
def runAnalyzer (launcher : Launcher ω) (limit : Option Nat) (invocation : Invocation)
    (before : ω) : Option (Except ProcessError Captured × ω) :=
  (capture launcher limit invocation before).map fun (captured, after) =>
    (captured.bind Captured.verdict, after)

end Findings
