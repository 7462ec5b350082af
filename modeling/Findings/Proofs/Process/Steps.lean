import Mathlib.Logic.Function.Basic
import Findings.Process.Capture

/-!
Contract: a program that is captured, step by step.

Owns:
- the writers, which are the program and its descendants, each with what it has
  still to write;
- the two pipes, each of a capacity that may be as small as one octet, and the two
  drains that empty them;
- the capture itself, which first waits for the program to end and then joins the
  drains;
- `Step`, everything that one of them can do, and `next?`, which computes it.

A write is taken into a pipe in pieces of any size, and so is it taken out.  A
stream ends when nothing is left in its pipe and nobody can write any more.  A
descendant that was not started yet is one that has made no step.

Does not own: faults of the operating system while waiting or reading, and times;
the limit may pass at any moment.
-/

namespace Findings.Capturing

/-! ## States -/

/-- What is captured, and how. -/
structure Setup where
  /-- How many descendants the program has. -/
  descendants : Nat
  /-- What each writer writes before it ends.  The program is the first writer. -/
  scripts : Fin (descendants + 1) → List StreamWrite
  /-- How many octets a pipe holds. -/
  capacity : Stream → Nat
  roomy : ∀ stream, 0 < capacity stream
  /-- The number that the program ends with, unless a signal ends it. -/
  exitCode : Option Nat
  /-- The limit of nanoseconds, if there is one. -/
  limit : Option Nat

/-- The program or one of its descendants. -/
abbrev Setup.Writer (setup : Setup) := Fin (setup.descendants + 1)

def Setup.program (setup : Setup) : setup.Writer := 0

/-- A task that empties a pipe. -/
inductive Drain where
  /-- It took some octets and waits for more. -/
  | reading (taken : List UInt8)
  /-- It came to the end of the stream. -/
  | done (text : String)
  | aborted
deriving DecidableEq, Repr

def Drain.abort : Drain → Drain
  | reading _ => aborted
  | drain => drain

inductive Phase where
  /-- It waits for the program to end. -/
  | waiting
  /-- It waits for both drains. -/
  | joining
  | returned (result : Except ProcessError Captured)

def Phase.result? : Phase → Option (Except ProcessError Captured)
  | returned result => some result
  | _ => none

variable {setup : Setup}

/-- The writers, the pipes, the drains and the capture. -/
structure State (setup : Setup) where
  /-- What each writer has still to write; nothing once it has ended. -/
  scripts : setup.Writer → Option (List StreamWrite)
  pipes : Stream → List UInt8
  drains : Stream → Drain
  phase : Phase
  /-- Whether the program was told to end. -/
  killed : Bool
  /-- What has come into the pipes, in order. -/
  history : List (setup.Writer × StreamWrite)

namespace State

def start (setup : Setup) : State setup where
  scripts writer := some (setup.scripts writer)
  pipes _ := []
  drains _ := .reading []
  phase := .waiting
  killed := false
  history := []

/-- What has come into the pipes from a writer, in order. -/
def writesOf (state : State setup) (writer : setup.Writer) : List StreamWrite :=
  (state.history.filter (·.1 = writer)).map Prod.snd

def timeline (state : State setup) (completed : Option Nat) : Timeline where
  writes := state.history.map Prod.snd
  exitCode := setup.exitCode
  completed := completed

/-- The octets that have come into a pipe, in order. -/
def octets (state : State setup) (stream : Stream) : List UInt8 :=
  (state.timeline none).octets stream

/-- A writer goes on with another script, or has ended. -/
def goOn (state : State setup) (writer : setup.Writer) (script : Option (List StreamWrite)) :
    State setup :=
  { state with scripts := Function.update state.scripts writer script }

/-- The first octets of a write come into the pipe. -/
def put
    (state : State setup)
    (writer : setup.Writer)
    (write : StreamWrite)
    (later : List StreamWrite)
    (count : Nat) :
    State setup where
  scripts := Function.update state.scripts writer
    (some (⟨write.stream, write.octets.drop count⟩ :: later))
  pipes := Function.update state.pipes write.stream
    (state.pipes write.stream ++ write.octets.take count)
  drains := state.drains
  phase := state.phase
  killed := state.killed
  history := state.history ++ [(writer, ⟨write.stream, write.octets.take count⟩)]

/-- A drain takes the first octets out of its pipe. -/
def take (state : State setup) (stream : Stream) (taken : List UInt8) (count : Nat) :
    State setup :=
  { state with
    pipes := Function.update state.pipes stream ((state.pipes stream).drop count)
    drains := Function.update state.drains stream
      (.reading (taken ++ (state.pipes stream).take count)) }

def finish (state : State setup) (stream : Stream) (taken : List UInt8) : State setup :=
  { state with
    drains := Function.update state.drains stream
      (.done (String.ofList (Text.decodeLossy taken))) }

/-- The capture returns without a result, and nothing that it started is left
running. -/
def giveUp (state : State setup) (limit : Nat) : State setup :=
  { state with
    drains := fun stream => (state.drains stream).abort
    phase := .returned (.error (.timedOut limit))
    killed := true }

end State

/-! ## Steps -/

inductive Action (setup : Setup) where
  /-- Some octets of a write come into a pipe. -/
  | put (writer : setup.Writer) (count : Nat)
  /-- A write is complete. -/
  | complete (writer : setup.Writer)
  /-- A writer ends, having written everything. -/
  | exit (writer : setup.Writer)
  /-- A writer ends because nobody reads any more. -/
  | abandon (writer : setup.Writer)
  /-- The program ends because it was told to. -/
  | die
  /-- A drain takes some octets. -/
  | take (stream : Stream) (count : Nat)
  /-- A drain comes to the end of its stream. -/
  | finish (stream : Stream)
  /-- The capture notices that the program has ended. -/
  | notice
  /-- The capture has joined both drains. -/
  | join
  /-- The limit passes. -/
  | expire
deriving DecidableEq

/-- An action that can happen, and what comes of it. -/
inductive Step : Action setup → State setup → State setup → Prop
  | put {state : State setup} {writer : setup.Writer} {write : StreamWrite}
      {later : List StreamWrite} {count : Nat}
      (next : state.scripts writer = some (write :: later))
      (positive : 0 < count)
      (inside : count ≤ write.octets.length)
      (room : (state.pipes write.stream).length + count ≤ setup.capacity write.stream)
      (heard : state.drains write.stream ≠ .aborted) :
      Step (.put writer count) state (state.put writer write later count)
  | complete {state : State setup} {writer : setup.Writer} {stream : Stream}
      {later : List StreamWrite}
      (next : state.scripts writer = some (⟨stream, []⟩ :: later)) :
      Step (.complete writer) state (state.goOn writer (some later))
  | exit {state : State setup} {writer : setup.Writer}
      (done : state.scripts writer = some []) :
      Step (.exit writer) state (state.goOn writer none)
  | abandon {state : State setup} {writer : setup.Writer} {write : StreamWrite}
      {later : List StreamWrite}
      (next : state.scripts writer = some (write :: later))
      (unheard : state.drains write.stream = .aborted) :
      Step (.abandon writer) state (state.goOn writer none)
  | die {state : State setup}
      (told : state.killed = true)
      (alive : state.scripts setup.program ≠ none) :
      Step .die state (state.goOn setup.program none)
  | take {state : State setup} {stream : Stream} {taken : List UInt8} {count : Nat}
      (reading : state.drains stream = .reading taken)
      (positive : 0 < count)
      (inside : count ≤ (state.pipes stream).length) :
      Step (.take stream count) state (state.take stream taken count)
  | finish {state : State setup} {stream : Stream} {taken : List UInt8}
      (reading : state.drains stream = .reading taken)
      (empty : state.pipes stream = [])
      (closed : ∀ writer, state.scripts writer = none) :
      Step (.finish stream) state (state.finish stream taken)
  | notice {state : State setup}
      (waiting : state.phase = .waiting)
      (ended : state.scripts setup.program = none) :
      Step .notice state { state with phase := .joining }
  | join {state : State setup} {stdout stderr : String}
      (joining : state.phase = .joining)
      (first : state.drains .stdout = .done stdout)
      (second : state.drains .stderr = .done stderr) :
      Step .join state
        { state with phase := .returned (.ok ⟨stdout, stderr, setup.exitCode⟩) }
  | expire {state : State setup} {limit : Nat}
      (bounded : setup.limit = some limit)
      (running : state.phase.result? = none) :
      Step .expire state (state.giveUp limit)

def next? (action : Action setup) (state : State setup) : Option (State setup) :=
  match action with
  | .put writer count =>
    match state.scripts writer with
    | some (write :: later) =>
      if 0 < count ∧ count ≤ write.octets.length
          ∧ (state.pipes write.stream).length + count ≤ setup.capacity write.stream
          ∧ state.drains write.stream ≠ .aborted then
        some (state.put writer write later count)
      else none
    | _ => none
  | .complete writer =>
    match state.scripts writer with
    | some (⟨_, []⟩ :: later) => some (state.goOn writer (some later))
    | _ => none
  | .exit writer =>
    match state.scripts writer with
    | some [] => some (state.goOn writer none)
    | _ => none
  | .abandon writer =>
    match state.scripts writer with
    | some (write :: _) =>
      if state.drains write.stream = .aborted then some (state.goOn writer none) else none
    | _ => none
  | .die =>
    if state.killed = true ∧ state.scripts setup.program ≠ none then
      some (state.goOn setup.program none)
    else none
  | .take stream count =>
    match state.drains stream with
    | .reading taken =>
      if 0 < count ∧ count ≤ (state.pipes stream).length then some (state.take stream taken count)
      else none
    | _ => none
  | .finish stream =>
    match state.drains stream with
    | .reading taken =>
      if state.pipes stream = [] ∧ ∀ writer, state.scripts writer = none then
        some (state.finish stream taken)
      else none
    | _ => none
  | .notice =>
    match state.phase with
    | .waiting =>
      if state.scripts setup.program = none then some { state with phase := .joining } else none
    | _ => none
  | .join =>
    match state.phase, state.drains .stdout, state.drains .stderr with
    | .joining, .done stdout, .done stderr =>
      some { state with phase := .returned (.ok ⟨stdout, stderr, setup.exitCode⟩) }
    | _, _, _ => none
  | .expire =>
    match setup.limit, state.phase.result? with
    | some limit, none => some (state.giveUp limit)
    | _, _ => none

theorem step_of_next? {action : Action setup} {state after : State setup}
    (computed : next? action state = some after) : Step action state after := by
  cases action with
  | put writer count =>
      simp only [next?] at computed
      split at computed
      · rename_i write later next
        obtain ⟨⟨positive, inside, room, heard⟩, computed⟩ :=
          Option.ite_none_right_eq_some.mp computed
        obtain rfl := Option.some.inj computed
        exact .put next positive inside room heard
      · contradiction
  | complete writer =>
      simp only [next?] at computed
      split at computed
      · rename_i next
        obtain rfl := Option.some.inj computed
        exact .complete next
      · contradiction
  | exit writer =>
      simp only [next?] at computed
      split at computed
      · rename_i done
        obtain rfl := Option.some.inj computed
        exact .exit done
      · contradiction
  | abandon writer =>
      simp only [next?] at computed
      split at computed
      · rename_i next
        obtain ⟨unheard, computed⟩ := Option.ite_none_right_eq_some.mp computed
        obtain rfl := Option.some.inj computed
        exact .abandon next unheard
      · contradiction
  | die =>
      obtain ⟨⟨told, alive⟩, computed⟩ := Option.ite_none_right_eq_some.mp computed
      obtain rfl := Option.some.inj computed
      exact .die told alive
  | take stream count =>
      simp only [next?] at computed
      split at computed
      · rename_i reading
        obtain ⟨⟨positive, inside⟩, computed⟩ := Option.ite_none_right_eq_some.mp computed
        obtain rfl := Option.some.inj computed
        exact .take reading positive inside
      · contradiction
  | finish stream =>
      simp only [next?] at computed
      split at computed
      · rename_i reading
        obtain ⟨⟨empty, closed⟩, computed⟩ := Option.ite_none_right_eq_some.mp computed
        obtain rfl := Option.some.inj computed
        exact .finish reading empty closed
      · contradiction
  | notice =>
      simp only [next?] at computed
      split at computed
      · rename_i waiting
        obtain ⟨ended, computed⟩ := Option.ite_none_right_eq_some.mp computed
        obtain rfl := Option.some.inj computed
        exact .notice waiting ended
      · contradiction
  | join =>
      simp only [next?] at computed
      split at computed
      · rename_i joining first second
        obtain rfl := Option.some.inj computed
        exact .join joining first second
      · contradiction
  | expire =>
      simp only [next?] at computed
      split at computed
      · rename_i bounded running
        obtain rfl := Option.some.inj computed
        exact .expire bounded running
      · contradiction

theorem Step.next?_eq {action : Action setup} {state after : State setup}
    (step : Step action state after) : next? action state = some after := by
  cases step <;> simp_all [next?]

/-! ## Runs -/

inductive Run : List (Action setup) → State setup → State setup → Prop
  | nil {state : State setup} : Run [] state state
  | cons {action : Action setup} {actions : List (Action setup)} {state middle after : State setup}
      (step : Step action state middle)
      (more : Run actions middle after) :
      Run (action :: actions) state after

/-- A state that some interleaving comes to. -/
def Reachable (state : State setup) : Prop :=
  ∃ actions, Run actions (.start setup) state

/-- What comes of actions, if they can happen one after another. -/
def run? : List (Action setup) → State setup → Option (State setup)
  | [], state => some state
  | action :: actions, state => (next? action state).bind (run? actions)

theorem run_of_run? {actions : List (Action setup)} {state after : State setup}
    (computed : run? actions state = some after) : Run actions state after := by
  induction actions generalizing state with
  | nil =>
      obtain rfl := Option.some.inj computed
      exact .nil
  | cons action actions inductionHypothesis =>
      obtain ⟨middle, first, later⟩ := Option.bind_eq_some_iff.mp computed
      exact .cons (step_of_next? first) (inductionHypothesis later)

theorem Run.append {first second : List (Action setup)} {state middle after : State setup}
    (run : Run first state middle) (more : Run second middle after) :
    Run (first ++ second) state after := by
  induction run with
  | nil => exact more
  | cons step _ inductionHypothesis => exact .cons step (inductionHypothesis more)

/-- A property that the start has and every step keeps is one of all states that some
interleaving comes to. -/
theorem Reachable.induction
    {motive : State setup → Prop}
    (start : motive (.start setup))
    (keeps : ∀ {action state after}, Step action state after → motive state → motive after)
    {state : State setup}
    (reachable : Reachable state) :
    motive state := by
  obtain ⟨actions, run⟩ := reachable
  generalize State.start setup = first at start run
  induction run with
  | nil => exact start
  | cons step _ inductionHypothesis => exact inductionHypothesis (keeps step start)

end Findings.Capturing
