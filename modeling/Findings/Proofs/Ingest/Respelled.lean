import Findings.Host.Recording
import Findings.Proofs.Ingest.Account
import Findings.Proofs.Registry.Alias

/-!
Contract: runs over the same files and reports in other spellings.

Owns:
- reports whose paths are spelled in another way;
- the law that a run makes the same calls and counts the same, whatever
  spellings the tracked files and the reports have.

A run looks at paths through their normalized forms only, except for its log,
which tells them as they are reported.

Does not own: which spellings there are.
-/

namespace Findings

variable {σ η : Type} {sink : Sink σ η} {repository : String} {registry : FileRegistry η}
  {earlier earlierOthers reports others : List FileReport} {report other : FileReport}
  {state : σ}

/-! ## Respelled reports -/

/-- The same report, with its path in another spelling. -/
structure FileReport.Respelled (report other : FileReport) : Prop where
  path : Alias report.path other.path
  linesOfCode : report.linesOfCode = other.linesOfCode
  linesOfComments : report.linesOfComments = other.linesOfComments
  violations : report.violations = other.violations

namespace FileReport.Respelled

theorem file (respelled : report.Respelled other) : report.file = other.file :=
  alias_iff.mp respelled.path

theorem get? (respelled : report.Respelled other) :
    registry.get? report.path = registry.get? other.path := by
  rw [FileRegistry.get?, FileRegistry.get?, alias_iff.mp respelled.path]

theorem isTracked (respelled : report.Respelled other) :
    report.isTracked registry = other.isTracked registry := by
  rw [FileReport.isTracked, FileReport.isTracked, respelled.get?]

/-- Respelled reports make the same calls, behind reports about the same files. -/
theorem calls (respelled : report.Respelled other)
    (sameFiles : earlier.map FileReport.file = earlierOthers.map FileReport.file) :
    report.calls repository registry earlier
      = other.calls repository registry earlierOthers := by
  rw [FileReport.calls, FileReport.calls, respelled.get?, respelled.file, sameFiles,
    respelled.linesOfCode, respelled.violations]

end FileReport.Respelled

/-! ## Runs over respelled reports -/

theorem callsAfter_respelled
    (respelled : List.Forall₂ FileReport.Respelled reports others)
    (sameFiles : earlier.map FileReport.file = earlierOthers.map FileReport.file) :
    callsAfter repository registry earlier reports
      = callsAfter repository registry earlierOthers others := by
  induction respelled generalizing earlier earlierOthers with
  | nil => rfl
  | cons same _ inductionHypothesis =>
    rw [callsAfter, callsAfter, same.calls sameFiles]
    congr 1
    apply inductionHypothesis
    rw [List.map_append, List.map_append, sameFiles, List.map_singleton, List.map_singleton,
      same.file]

theorem matchedFiles_respelled
    (respelled : List.Forall₂ FileReport.Respelled reports others) :
    matchedFiles registry reports = matchedFiles registry others := by
  induction respelled with
  | nil => rfl
  | @cons report other _ _ same _ inductionHypothesis =>
    unfold matchedFiles at inductionHypothesis ⊢
    rw [List.filter_cons, List.filter_cons, same.isTracked]
    split
    · rw [List.map_cons, List.map_cons, same.file, inductionHypothesis]
    · exact inductionHypothesis

/-- Spellings do not matter.  Over tracked files and reports whose paths are
respelled, each in any way, a registry has as many files and finds the same ones,
and a run on any sink makes the same calls, leaves the sink in the same state and
counts the same. -/
theorem ingest_respelled
    (sink : Sink σ η)
    (repository : String)
    (state : σ)
    {files otherFiles : List (TrackedFile η)}
    {reports others : List FileReport}
    (respelledFiles : List.Forall₂ TrackedFile.Respelled files otherFiles)
    (respelledReports : List.Forall₂ FileReport.Respelled reports others) :
    let run := fun files reports =>
      ingest sink.traced repository (FileRegistry.ofFiles files) reports (state, [])
    (FileRegistry.ofFiles files).size = (FileRegistry.ofFiles otherFiles).size
    ∧ (∀ path other, Alias path other →
      (FileRegistry.ofFiles files).lookup path = (FileRegistry.ofFiles otherFiles).lookup other)
    ∧ (run files reports).sink = (run otherFiles others).sink
    ∧ (run files reports).summary = (run otherFiles others).summary := by
  intro run
  have registries := FileRegistry.ofFiles_respelled respelledFiles
  simp only [run, registries, true_and]
  have calls : callsFor repository (.ofFiles otherFiles) reports
      = callsFor repository (.ofFiles otherFiles) others :=
    callsAfter_respelled respelledReports rfl
  refine ⟨fun _ _ => FileRegistry.lookup_respelled, ?_, ?_⟩
  · rw [ingest_sink, ingest_sink, calls]
  · apply summary_ingest_eq respelledReports.length_eq
    · rw [matchedFiles_respelled respelledReports]
    · intro applied
      rw [answered_ingest, answered_ingest, calls]

/-- Two tracked paths that spell one file, and two reports about it, each
respelled with steps and separators of its own. -/
theorem ingest_respelled_stackedSteps :
    let files : List (TrackedFile String) := [⟨"cmd/main.go", "A"⟩, ⟨"./cmd/main.go", "B"⟩]
    let otherFiles : List (TrackedFile String) :=
      [⟨".\\./.\\cmd\\main.go", "A"⟩, ⟨"cmd\\main.go", "B"⟩]
    let reports : List FileReport := [⟨"cmd/main.go", 10, 3, []⟩, ⟨"cmd/main.go", 12, 3, []⟩]
    let others : List FileReport :=
      [⟨"././cmd\\main.go", 10, 3, []⟩, ⟨".\\.\\cmd/main.go", 12, 3, []⟩]
    let run := fun files reports =>
      ingest RecordingHost.host.toSink.traced "go-go" (FileRegistry.ofFiles files) reports
        (.ofLanguage "go", [])
    List.Forall₂ TrackedFile.Respelled files otherFiles
    ∧ List.Forall₂ FileReport.Respelled reports others
    ∧ (FileRegistry.ofFiles otherFiles).size = 1
    ∧ (run otherFiles others).sink.2 = [.saveMeasure "B" .linesOfCode 10] := by
  intro files otherFiles reports others run
  have respelledFiles : List.Forall₂ TrackedFile.Respelled files otherFiles :=
    .cons ⟨by decide, rfl⟩ (.cons ⟨by decide, rfl⟩ .nil)
  have respelledReports : List.Forall₂ FileReport.Respelled reports others :=
    .cons ⟨by decide, rfl, rfl, rfl⟩ (.cons ⟨by decide, rfl, rfl, rfl⟩ .nil)
  obtain ⟨size, -, made, -⟩ := ingest_respelled RecordingHost.host.toSink "go-go" (.ofLanguage "go")
    respelledFiles respelledReports
  exact ⟨respelledFiles, respelledReports, size.symm.trans (by decide),
    (congrArg Prod.snd made.symm).trans (by decide)⟩

end Findings
