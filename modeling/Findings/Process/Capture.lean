import Findings.Process.Basic
import Findings.Text.Utf8

/-!
Contract: what is captured of a program that runs.

Owns:
- `Timeline`, what a program and its descendants write and when they end;
- `Timeline.capture`, which waits until the program has ended and both streams
  are closed, or until a limit has passed.

The limit counts even if everything is done at that very time, so with no time
at all nothing is captured.  A stream is decoded as a whole: how its octets
came in pieces does not show.

Does not own: how a program comes to write.
-/

namespace Findings

/-- The streams of a program that are captured. -/
inductive Stream where
  | stdout
  | stderr
deriving DecidableEq, Repr

structure StreamWrite where
  stream : Stream
  octets : List UInt8
deriving DecidableEq, Repr

/-- What a program and its descendants do. -/
structure Timeline where
  /-- What is written, in order. -/
  writes : List StreamWrite
  /-- The number that the program ends with, unless a signal ends it. -/
  exitCode : Option Nat
  /-- How many nanoseconds pass until the program has ended and nobody can
  write any more, if that ever happens. -/
  completed : Option Nat
deriving DecidableEq, Repr

namespace Timeline

def octets (timeline : Timeline) (stream : Stream) : List UInt8 :=
  (timeline.writes.filter (·.stream = stream)).flatMap StreamWrite.octets

def text (timeline : Timeline) (stream : Stream) : String :=
  String.ofList (Text.decodeLossy (timeline.octets stream))

/-- What is captured once everything is done. -/
def captured (timeline : Timeline) : Captured :=
  ⟨timeline.text .stdout, timeline.text .stderr, timeline.exitCode⟩

/-- What is captured within a limit of nanoseconds.  Without a limit nothing ever
is, unless the program ends. -/
def capture (timeline : Timeline) (limit : Option Nat) : Option (Except ProcessError Captured) :=
  match timeline.completed, limit with
  | some time, some limit =>
    some (if time < limit then .ok timeline.captured else .error (.timedOut limit))
  | some _, none => some (.ok timeline.captured)
  | none, some limit => some (.error (.timedOut limit))
  | none, none => none

end Timeline

end Findings
