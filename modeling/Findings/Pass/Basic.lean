import Findings.Bundle.Extract
import Findings.Ingest.Basic
import Findings.Ingest.Repository
import Findings.Pass.Error

/-!
Contract: one pass, from an analyzer in a bundle to findings at a host.

Owns:
- `Stages`, how a program is taken out, run and released, in surroundings of
  any type;
- `PassEvent`, what a pass does, kept in order, each event with the
  surroundings that it finds;
- `Pass.execute`: the files are listed, a program is extracted, run and
  released, what it wrote is decoded, and the reports are ingested.

A pass ends with the first error.  What was extracted is released on every
way, before anything is decoded, and the host gets nothing before everything
is decoded.  A pass whose program never ends waits for it.

Does not own: what the stages do, and how a host answers.
-/

namespace Findings

/-! ## Stages -/

/-- What a pass does to its surroundings, which are of type `ω`. -/
structure Stages (ω : Type) where
  /-- The name under which a breakdown of the extraction is told. -/
  extractorName : String
  extract : String → ω → Except ExtractionFailure Binary × ω
  /-- Gives nothing for a program that is waited for and never ends. -/
  run : Invocation → ω → Option (Except ProcessError Captured × ω)
  release : Binary → ω → ω

def ExtractionFailure.toPassError (extractorName : String) : ExtractionFailure → PassError
  | .error cause => .extraction cause
  | .breakdown wording => .stage extractorName wording

/-! ## What a pass does -/

inductive PassEvent (η : Type) where
  /-- The analyzer for a system is looked for. -/
  | extract (osName : String)
  | run (invocation : Invocation)
  | release (binary : Binary)
  | decode (text : String)
  | call (call : Call η)
deriving DecidableEq, Repr

structure Pass where
  osName : String
  /-- The language whose files are matched against the reports. -/
  language : String
  /-- The folder that is analyzed. -/
  target : String
deriving DecidableEq, Repr

structure PassResult where
  summary : Summary
  trackedFiles : Nat
deriving DecidableEq, Repr

/-- How far a pass comes, with the state of the host, the surroundings and what was
done. -/
structure PassRun (ω σ η : Type) where
  /-- What the pass comes to, unless its program never ends. -/
  outcome : Option (Except PassError PassResult)
  host : σ
  surroundings : ω
  /-- The events in order, with the surroundings that each one found. -/
  trace : List (PassEvent η × ω)

namespace Pass

def repository (pass : Pass) : String :=
  repositoryKey pass.language

def invocation (pass : Pass) (binary : Binary) : Invocation :=
  .analyze binary.path binary.workingFolder pass.target

/-- Decodes what a program wrote and ingests it, once the program is
released. -/
def digest {ω σ η : Type}
    (pass : Pass)
    (host : Host σ η)
    (registry : FileRegistry η)
    (state : σ)
    (surroundings : ω)
    (output : String) :
    PassRun ω σ η :=
  match FileReport.decodeAll output with
  | .error error =>
    ⟨some (.error (.report error)), state, surroundings, [(.decode output, surroundings)]⟩
  | .ok reports =>
    let ingestion := ingest host.toSink.traced pass.repository registry reports (state, [])
    ⟨some (.ok ⟨ingestion.summary, registry.size⟩), ingestion.sink.1, surroundings,
      (.decode output, surroundings)
        :: ingestion.sink.2.map fun call => (.call call, surroundings)⟩

def after {ω σ η : Type} (events : List (PassEvent η × ω)) (run : PassRun ω σ η) :
    PassRun ω σ η :=
  { run with trace := events ++ run.trace }

/-- Goes through the stages of a pass. -/
def execute {ω σ η : Type}
    (pass : Pass)
    (stages : Stages ω)
    (host : Host σ η)
    (state : σ)
    (surroundings : ω) :
    PassRun ω σ η :=
  let registry : FileRegistry η := .ofFiles (host.sourceFiles state pass.language)
  let start : PassEvent η × ω := (.extract pass.osName, surroundings)
  match stages.extract pass.osName surroundings with
  | (.error failure, left) =>
    ⟨some (.error (failure.toPassError stages.extractorName)), state, left, [start]⟩
  | (.ok binary, extracted) =>
    let events := [start, (.run (pass.invocation binary), extracted)]
    match stages.run (pass.invocation binary) extracted with
    | none => ⟨none, state, extracted, events⟩
    | some (captured, used) =>
      let released := stages.release binary used
      let events := events ++ [(.release binary, used)]
      match captured with
      | .error error => ⟨some (.error (.process error)), state, released, events⟩
      | .ok captured => after events (pass.digest host registry state released captured.stdout)

end Pass

end Findings
