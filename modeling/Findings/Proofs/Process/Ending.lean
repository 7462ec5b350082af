import Mathlib
import Findings.Proofs.Process.Capture

/-!
Contract: every capture comes to an end.

Owns:
- `State.work`, the steps that are left at most, which every step makes less;
- the bound on the length of a run;
- the law that a capture can always go on until it returns, without its limit.
-/

namespace Findings.Capturing

variable {setup : Setup} {state after : State setup} {action : Action setup}

/-! ## Work -/

/-- The steps of a writer that is to write a script: each octet is put and taken, each
write is completed, and then the writer ends. -/
def scriptWork : Option (List StreamWrite) → Nat
  | none => 0
  | some script => 1 + (script.map fun write => 1 + 2 * write.octets.length).sum

/-- A drain that reads has one step left to finish. -/
def Drain.work : Drain → Nat
  | reading _ => 1
  | _ => 0

def Phase.work : Phase → Nat
  | waiting => 2
  | joining => 1
  | returned _ => 0

namespace State

/-- The steps that are left for the octets in a pipe, and for its drain. -/
def streamWork (state : State setup) (stream : Stream) : Nat :=
  (state.pipes stream).length + (state.drains stream).work

def work (state : State setup) : Nat :=
  ∑ writer, scriptWork (state.scripts writer)
    + (state.streamWork .stdout + state.streamWork .stderr) + state.phase.work

end State

/-- The work of the writers, when one of them goes on. -/
theorem sum_scriptWork_update
    (scripts : setup.Writer → Option (List StreamWrite))
    (writer : setup.Writer)
    (script : Option (List StreamWrite)) :
    ∑ other, scriptWork (Function.update scripts writer script other)
        + scriptWork (scripts writer)
      = ∑ other, scriptWork (scripts other) + scriptWork script := by
  have before := Finset.add_sum_erase Finset.univ (fun other => scriptWork (scripts other))
    (Finset.mem_univ writer)
  have after := Finset.add_sum_erase Finset.univ
    (fun other => scriptWork (Function.update scripts writer script other))
    (Finset.mem_univ writer)
  have others : ∑ other ∈ Finset.univ.erase writer,
        scriptWork (Function.update scripts writer script other)
      = ∑ other ∈ Finset.univ.erase writer, scriptWork (scripts other) := by
    apply Finset.sum_congr rfl
    intro other inside
    rw [Function.update_of_ne (Finset.ne_of_mem_erase inside)]
  rw [others, Function.update_self] at after
  omega

theorem work_goOn {writer : setup.Writer} {script : Option (List StreamWrite)}
    (less : scriptWork script < scriptWork (state.scripts writer)) :
    (state.goOn writer script).work < state.work := by
  have writers := sum_scriptWork_update state.scripts writer script
  simp only [State.work, State.goOn, State.streamWork] at *
  omega

/-- Each octet that is put is one less to write. -/
theorem work_put
    {writer : setup.Writer}
    {write : StreamWrite}
    {later : List StreamWrite}
    {count : Nat}
    (next : state.scripts writer = some (write :: later))
    (positive : 0 < count)
    (inside : count ≤ write.octets.length) :
    (state.put writer write later count).work < state.work := by
  have writers := sum_scriptWork_update state.scripts writer
    (some (⟨write.stream, write.octets.drop count⟩ :: later))
  have streams : (state.put writer write later count).streamWork .stdout
        + (state.put writer write later count).streamWork .stderr
      = state.streamWork .stdout + state.streamWork .stderr + count := by
    cases same : write.stream <;> simp [State.streamWork, State.put, same] <;> omega
  rw [next] at writers
  simp only [scriptWork, List.map_cons, List.sum_cons, List.length_drop] at writers
  simp only [State.work, streams]
  simp only [State.put, scriptWork] at *
  omega

theorem work_take
    {stream : Stream}
    {taken : List UInt8}
    {count : Nat}
    (reading : state.drains stream = .reading taken)
    (positive : 0 < count)
    (inside : count ≤ (state.pipes stream).length) :
    (state.take stream taken count).work < state.work := by
  cases stream <;> simp [State.work, State.streamWork, State.take, reading, Drain.work] <;> omega

theorem work_finish {stream : Stream} {taken : List UInt8}
    (reading : state.drains stream = .reading taken) :
    (state.finish stream taken).work < state.work := by
  cases stream <;> simp [State.work, State.streamWork, State.finish, reading, Drain.work]

theorem Drain.work_abort (drain : Drain) : drain.abort.work ≤ drain.work := by
  cases drain <;> simp [Drain.abort, Drain.work]

theorem work_giveUp {limit : Nat} (running : state.phase.result? = none) :
    (state.giveUp limit).work < state.work := by
  have first := (state.drains .stdout).work_abort
  have second := (state.drains .stderr).work_abort
  have positive : 0 < state.phase.work := by
    cases phase : state.phase with
    | returned result => simp [phase, Phase.result?] at running
    | _ => simp [Phase.work]
  simp only [State.work, State.streamWork, State.giveUp, Phase.work] at *
  omega

/-- Every step leaves less to do. -/
theorem Step.work_lt (step : Step action state after) : after.work < state.work := by
  cases step with
  | put next positive inside room heard => exact work_put next positive inside
  | complete next =>
      apply work_goOn
      simp only [next, scriptWork, List.map_cons, List.sum_cons]
      omega
  | exit done =>
      apply work_goOn
      simp [done, scriptWork]
  | abandon next unheard =>
      apply work_goOn
      simp only [next, scriptWork]
      omega
  | die told alive =>
      obtain ⟨script, next⟩ := Option.ne_none_iff_exists'.mp alive
      apply work_goOn
      simp only [next, scriptWork]
      omega
  | take reading positive inside => exact work_take reading positive inside
  | finish reading empty closed => exact work_finish reading
  | notice waiting ended => simp [State.work, State.streamWork, waiting, Phase.work]
  | join joining first second => simp [State.work, State.streamWork, joining, Phase.work]
  | expire bounded running => exact work_giveUp running

/-! ## Runs -/

/-- A run is no longer than the work that it starts with. -/
theorem Run.length_le {actions : List (Action setup)} (run : Run actions state after) :
    actions.length + after.work ≤ state.work := by
  induction run with
  | nil => simp
  | cons step _ inductionHypothesis =>
      have less := step.work_lt
      rw [List.length_cons]
      omega

/-- From every state that some interleaving comes to, the capture can go on until it
has returned, without its limit. -/
theorem Reachable.returns (reachable : Reachable state) :
    ∃ actions after, Run actions state after ∧ .expire ∉ actions
      ∧ after.phase.result? ≠ none := by
  induction bound : state.work using Nat.strongRecOn generalizing state with
  | ind work inductionHypothesis =>
      by_cases running : state.phase.result? = none
      · obtain ⟨action, middle, other, step⟩ := reachable.sound.goesOn running
        obtain ⟨actions, after, run, without, returned⟩ :=
          inductionHypothesis middle.work (bound ▸ step.work_lt) (reachable.step step) rfl
        exact ⟨action :: actions, after, .cons step run, by simp [without, Ne.symm other], returned⟩
      · exact ⟨[], state, .nil, by simp, running⟩

end Findings.Capturing
