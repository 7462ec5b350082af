import Findings.Simulation.Machine.Basic

/-!
Contract: what processes do.

Owns:
- `Program`, what a process does next: each step is an act on the machine;
- `Action`, acts that give a value to those behind them;
- starting a process that goes on by itself.

A step that cannot be made for now is tried again, at a time that it may name.
What a program does between two steps cannot be seen by anybody else.
-/

namespace Findings.Simulation

/-! ## Programs -/

mutual

inductive Program where
  | ended (ending : Ending)
  | step (act : Machine → Turn)

inductive Turn where
  /-- Nothing can be done, at least until a time. -/
  | blocked (until? : Option Nat)
  | goOn (machine : Machine) (next : Program)
  /-- A child was made, which does something of its own. -/
  | forked (machine : Machine) (number : Nat) (child next : Program)

end

inductive Attempt (α : Type) where
  | blocked (until? : Option Nat)
  | done (value : α) (machine : Machine)

/-! ## Actions -/

/-- Acts that end with a value, given what is done with it. -/
def Action (α : Type) : Type :=
  (α → Program) → Program

namespace Action

instance : Monad Action where
  pure value := fun next => next value
  bind action more := fun next => action fun value => more value next

def perform {α : Type} (act : Machine → Attempt α) : Action α :=
  fun next => .step fun machine =>
    match act machine with
    | .blocked time => .blocked time
    | .done value machine => .goOn machine (next value)

def observe {α : Type} (view : Machine → α) : Action α :=
  perform fun machine => .done (view machine) machine

def update (change : Machine → Machine) : Action Unit :=
  perform fun machine => .done () (change machine)

/-- Goes on as another program, whatever was to be done. -/
def become {α : Type} (program : Program) : Action α :=
  fun _ => program

def finish {α : Type} (ending : Ending) : Action α :=
  become (.ended ending)

def exit {α : Type} (status : Nat) : Action α :=
  finish (.exited (status % 256))

def stall {α : Type} : Action α :=
  become (.step fun _ => .blocked none)

/-- The program of an action whose value is the status of its process. -/
def toProgram (action : Action Nat) : Program :=
  action fun status => .ended (.exited (status % 256))

/-- Starts a process that is a copy of this one except for what it does and for
some changes, and gives its number. -/
def fork (change : Process → Process) (child : Program) : Action Nat :=
  fun next => .step fun machine =>
    let (number, machine) := machine.takeNumber
    match machine.self? with
    | some process =>
      let copy := { process with
        number := number
        parent := process.number
        pending := []
        doom? := none }
      let machine := { machine with processes := machine.processes ++ [change copy] }
      .forked machine number child (next number)
    | none => .blocked none

/-! ## Time -/

def waitUntil (time : Nat) : Action Unit :=
  perform fun machine =>
    if time ≤ machine.clock then .done () machine else .blocked (some time)

def sleep (duration : Nat) : Action Unit := do
  let now ← observe Machine.clock
  waitUntil (now + duration)

/-- How long a round of a loop takes, in nanoseconds. -/
def roundDuration : Nat := 1000

/-- How many rounds a loop goes through at most; more of them count as a loop
without an end. -/
def maxRounds : Nat := 400000

/-- Repeats something that changes a state until it gives a value. -/
def repeated {σ α : Type} (step : σ → Action (σ ⊕ α)) : Nat → σ → Action α
  | 0, _ => stall
  | bound + 1, state => do
    match ← step state with
    | .inr value => return value
    | .inl state => repeated step bound state

end Action

end Findings.Simulation
