import Findings.Host.Basic

/-!
Contract: calls to a host made again.

Owns:
- `Sink.replay`, which makes a list of calls and forgets the answers;
- the two parts of a call, the measure that it saves or the issue that it hands
  over.

A sink that keeps its calls is the sink itself beside the list of the calls, so
a law about the replay of every sink is also a law about the calls.

Does not own: which calls a run makes.
-/

namespace Findings

/-! ## Calls made again -/

def Sink.perform {σ η : Type} (sink : Sink σ η) (state : σ) : Call η → σ
  | .saveMeasure file metric value => sink.saveMeasure state file metric value
  | .addIssue file issue => (sink.addIssue state file issue).2

def Sink.replay {σ η : Type} (sink : Sink σ η) (state : σ) (calls : List (Call η)) : σ :=
  calls.foldl sink.perform state

namespace Sink

variable {σ η : Type} {sink : Sink σ η} {state : σ}

@[simp]
theorem replay_nil : sink.replay state [] = state :=
  rfl

theorem replay_cons {call : Call η} {calls : List (Call η)} :
    sink.replay state (call :: calls) = sink.replay (sink.perform state call) calls :=
  rfl

/-- Calls are made one after another. -/
theorem replay_append {first second : List (Call η)} :
    sink.replay state (first ++ second) = sink.replay (sink.replay state first) second :=
  List.foldl_append

/-- A call to a sink that keeps its calls is the call to the sink, and is kept. -/
theorem perform_traced {earlier : List (Call η)} {call : Call η} :
    sink.traced.perform (state, earlier) call = (sink.perform state call, earlier ++ [call]) := by
  cases call <;> rfl

/-- Keeping the calls changes nothing else. -/
theorem replay_traced {earlier calls : List (Call η)} :
    sink.traced.replay (state, earlier) calls = (sink.replay state calls, earlier ++ calls) := by
  induction calls generalizing state earlier with
  | nil => simp
  | cons call calls inductionHypothesis =>
      rw [replay_cons, perform_traced, inductionHypothesis, replay_cons, List.append_assoc,
        List.singleton_append]

end Sink

/-! ## Parts of calls -/

namespace Call

variable {η : Type}

def measure? : Call η → Option (η × Metric × Int64)
  | .saveMeasure file metric value => some (file, metric, value)
  | .addIssue .. => none

def issue? : Call η → Option (η × NewIssue)
  | .saveMeasure .. => none
  | .addIssue file issue => some (file, issue)

@[simp]
theorem measure?_saveMeasure {file : η} {metric : Metric} {value : Int64} :
    (saveMeasure file metric value).measure? = some (file, metric, value) :=
  rfl

@[simp]
theorem measure?_addIssue {file : η} {issue : NewIssue} :
    (addIssue file issue).measure? = none :=
  rfl

@[simp]
theorem issue?_saveMeasure {file : η} {metric : Metric} {value : Int64} :
    (saveMeasure file metric value).issue? = none :=
  rfl

@[simp]
theorem issue?_addIssue {file : η} {issue : NewIssue} :
    (addIssue file issue).issue? = some (file, issue) :=
  rfl

end Call

end Findings
