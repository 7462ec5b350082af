import Findings.Simulation.Shell.Session
import Findings.Simulation.Tool.Copy
import Findings.Simulation.Tool.Facts
import Findings.Simulation.Tool.Listing
import Findings.Simulation.Tool.Order
import Findings.Simulation.Tool.Search
import Findings.Simulation.Tool.Start
import Findings.Simulation.Tool.Transfer
import Findings.Simulation.Tool.Words

/-!
Contract: the programs of the system.

Owns:
- `programs`, what the programs do, by their names;
- going on as the program that a path leads to;
- `systemFiles`, the files of a system with these programs.
-/

namespace Findings.Simulation.Tool

def programs : List (String × Tool) := [
  ("[", bracket), ("arch", arch), ("basename", basename), ("cat", cat), ("chmod", chmod),
  ("cp", cp), ("cut", cut), ("dash", shell), ("dirname", dirname), ("echo", echo),
  ("egrep", grep), ("env", env), ("expr", expr), ("false", fail), ("fgrep", grep),
  ("find", find), ("fold", fold), ("grep", grep), ("head", head), ("hostname", hostname),
  ("id", identity), ("kill", kill), ("ln", ln), ("logname", logname), ("ls", ls),
  ("mkdir", mkdir), ("mktemp", mktemp), ("mv", mv), ("nice", nice), ("nl", nl),
  ("nohup", nohup), ("nproc", nproc), ("od", od), ("paste", paste), ("printenv", printenv),
  ("printf", printf), ("pwd", pwd), ("readlink", readlink), ("realpath", realpath),
  ("rev", rev), ("rm", rm), ("rmdir", rmdir), ("seq", seq), ("setsid", setsid), ("sh", shell),
  ("sleep", sleep), ("sort", sort), ("sync", sync), ("tac", tac), ("tail", tail),
  ("tee", tee), ("test", test), ("timeout", timeout), ("touch", touch), ("tr", tr),
  ("true", succeed), ("tty", tty), ("uname", uname), ("uniq", uniq), ("wc", wc),
  ("which", which), ("whoami", whoami), ("xargs", xargs), ("yes", yes)]

def maxLaunches : Nat := 4000

/-- Goes on as a program, which may go on as another one, and so on. -/
def launchWithin : Nat → Launch
  | 0 => fun _ _ => Action.stall
  | bound + 1 => fun path call => do
    match ← Action.observe fun machine => machine.image (textOf path) call with
    | .error fault => return fault
    | .ok (name, call) =>
      match programs.lookup name with
      | none => return .notExecutable
      | some tool =>
        Action.changeSelf Process.renew
        Action.become (Action.toProgram (tool (launchWithin bound) call))

/-- Goes on as the program that a path leads to, or gives the fault. -/
def launch : Launch :=
  launchWithin maxLaunches

def systemFiles : Node :=
  standardFiles (programs.map Prod.fst)

end Findings.Simulation.Tool
