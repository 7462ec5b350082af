import Findings.Proofs.Pass.Recording
import Findings.Proofs.Text.Casing

/-!
Contract: the rule repository of what passes report to a recording host.

Owns:
- `SameRepository`, two languages with the same key and the same name of their rule
  repositories, as languages have that a host takes for one;
- the law that whatever passes hand to a recording host, and whatever issues they leave
  there, belongs to the repository of the host's own language.

A host compares languages by the case of ASCII letters, and a repository is named by
full case conversion.  The two agree although the form of a sigma depends on the
letters around it.

Does not own: languages that differ in other letters; a host takes none of them for
its own.
-/

namespace Findings

variable {ω σ η : Type}

/-! ## Languages that are taken for one -/

/-- Two languages whose rules are in one repository, under one name. -/
structure SameRepository (left right : String) : Prop where
  key : repositoryKey left = repositoryKey right
  name : repositoryName left = repositoryName right

theorem sameRepository_of_sameUpToAsciiCase {left right : String}
    (same : Text.sameUpToAsciiCase left.toList right.toList) : SameRepository left right where
  key := by
    rw [repositoryKey, repositoryKey, Text.lowercase_eq_of_sameUpToAsciiCase same]
  name := by
    rw [repositoryName, repositoryName, Text.uppercase_eq_of_sameUpToAsciiCase same]

/-! ## Repositories of calls -/

/-- The repository of an issue is the one that the reports are taken in for. -/
theorem repository_of_addIssue_mem_callsFor {repository : String} {registry : FileRegistry η}
    {reports : List FileReport} {file : η} {issue : NewIssue}
    (made : Call.addIssue file issue ∈ callsFor repository registry reports) :
    issue.rule.repository = repository := by
  have handed : (file, issue) ∈ (callsFor repository registry reports).filterMap Call.issue? :=
    List.mem_filterMap.mpr ⟨_, made, rfl⟩
  rw [callsFor, filterMap_issue?_callsAfter, List.mem_flatMap] at handed
  obtain ⟨report, -, inside⟩ := handed
  unfold FileReport.issues at inside
  cases found : registry.get? report.path with
  | none => simp [found] at inside
  | some handle =>
    simp only [found, List.mem_map, Prod.mk.injEq] at inside
    obtain ⟨violation, -, -, rfl⟩ := inside
    rfl

namespace RecordingHost

variable {state start : RecordingHost} {pass : Pass} {stages : Stages ω} {surroundings : ω}
  {language : String} {attempts : List (Pass × Stages ω)}

theorem sameRepository_of_knows (known : state.knows language) :
    SameRepository language state.language :=
  sameRepository_of_sameUpToAsciiCase known

theorem knows_of_sourceFiles_ne_nil (listed : state.sourceFiles language ≠ []) :
    state.knows language := by
  unfold sourceFiles at listed
  split at listed
  case isTrue known => exact known
  case isFalse => contradiction

/-- A pass hands issues over only if the host knows its language. -/
theorem repository_of_addIssue_mem_calls {file : String} {issue : NewIssue}
    (made : Call.addIssue file issue
      ∈ (pass.execute stages host state surroundings).calls) :
    issue.rule.repository = repositoryKey state.language := by
  rcases Pass.execute_cases pass stages host state surroundings with
    fruitless | ⟨reports, fruitful⟩
  · rw [fruitless.calls] at made
    contradiction
  · have asked : Call.addIssue file issue
        ∈ callsFor pass.repository (.ofFiles (state.sourceFiles pass.language)) reports :=
      fruitful.calls ▸ made
    rw [callsFor_sourceFiles] at asked
    by_cases known : state.knows pass.language
    · rw [if_pos known] at asked
      rw [repository_of_addIssue_mem_callsFor asked]
      exact (sameRepository_of_knows known).key
    · rw [if_neg known] at asked
      contradiction

/-- The recorded form of an issue keeps its rule. -/
theorem rule_of_recorded? {handed : String × NewIssue} {issue : RecordedIssue}
    (recorded : state.recorded? handed = some issue) : issue.rule = handed.2.rule := by
  unfold recorded? at recorded
  split at recorded
  case isTrue =>
    cases recorded
    rfl
  case isFalse => contradiction

/-- What is recorded of reports belongs to the repository they are taken in for. -/
theorem repository_of_mem_accepted {repository : String} {reports : List FileReport}
    {issue : RecordedIssue} (member : issue ∈ state.accepted repository reports) :
    issue.rule.repository = repository := by
  rw [accepted, ← filterMap_issue?_callsAfter, List.mem_filterMap] at member
  obtain ⟨handed, inside, recorded⟩ := member
  obtain ⟨call, made, same⟩ := List.mem_filterMap.mp inside
  cases call with
  | saveMeasure => contradiction
  | addIssue file issue =>
    cases same
    rw [rule_of_recorded? recorded]
    exact repository_of_addIssue_mem_callsFor made

/-! ## Passes one after another -/

/-- Each of several passes finds the files and the language that the first one found. -/
theorem sameFiles_of_mem_executeAll {entry : Pass × PassRun ω RecordingHost String}
    (member : entry ∈ Pass.executeAll host attempts state surroundings) :
    ∃ before stages met,
      SameFiles before state ∧ entry.2 = entry.1.execute stages host before met := by
  induction attempts generalizing state surroundings with
  | nil => contradiction
  | cons attempt attempts inductionHypothesis =>
    obtain ⟨pass, stages⟩ := attempt
    obtain ⟨runs, -⟩ | ⟨runs, -⟩ :=
      @Pass.executeAll_cons_cases _ _ _ pass stages host state surroundings attempts
    · rw [runs, List.mem_singleton] at member
      exact ⟨state, stages, surroundings, .refl, by rw [member]⟩
    · rw [runs] at member
      rcases List.mem_cons.mp member with rfl | later
      · exact ⟨state, stages, surroundings, .refl, rfl⟩
      · obtain ⟨before, stages', met, same, ran⟩ := inductionHypothesis later
        refine ⟨before, stages', met, same.trans ?_, ran⟩
        rw [host_execute]
        exact sameFiles_replay

/-- A credited pass is one of a language that the host knows. -/
theorem knows_of_mem_credited
    {reported : List (Pass × Option (List FileReport))}
    {reports : List FileReport}
    (member : (pass, reports) ∈ state.credited reported) :
    state.knows pass.language := by
  obtain ⟨⟨wrote, reports?⟩, -, chosen⟩ := List.mem_filterMap.mp member
  dsimp only at chosen
  split at chosen
  case isTrue known =>
    obtain ⟨_, -, same⟩ := Option.map_eq_some_iff.mp chosen
    cases same
    exact known
  case isFalse => contradiction

/-- The issues of a host after passes are those of the reports that count, behind the
ones it had. -/
theorem issues_executeAll :
    (Pass.hostAfter state (Pass.executeAll host attempts state surroundings)).issues
      = state.issues
        ++ (state.credited (Pass.reportedAll attempts surroundings)).flatMap fun (pass, reports) =>
          state.accepted pass.repository reports := by
  rw [hostAfter_executeAll, issues_replay, issues_creditedCalls]

/-- One language has one rule repository.  Languages that differ in the case of ASCII
letters have the same repository key and name, so every language for which a host lists
its files has those of the host's own language.  In any passes on the host, of any
languages and with any ends, every issue that is handed over carries the key of that
language, and so does every issue that they leave behind. -/
theorem one_repository_for_a_language
    (start : RecordingHost)
    (attempts : List (Pass × Stages ω))
    (surroundings : ω) :
    (∀ left right : String, Text.sameUpToAsciiCase left.toList right.toList →
      SameRepository left right)
    ∧ (∀ language, start.sourceFiles language ≠ [] → SameRepository language start.language)
    ∧ let runs := Pass.executeAll host attempts start surroundings
      (∀ pass run, (pass, run) ∈ runs → ∀ file issue, Call.addIssue file issue ∈ run.calls →
        issue.rule.repository = repositoryKey start.language)
      ∧ ∃ added, (Pass.hostAfter start runs).issues = start.issues ++ added
        ∧ ∀ issue ∈ added, issue.rule.repository = repositoryKey start.language := by
  refine ⟨fun _ _ => sameRepository_of_sameUpToAsciiCase, ?listed, ?handed, ?recorded⟩
  case listed =>
    intro language listed
    exact sameRepository_of_knows (knows_of_sourceFiles_ne_nil listed)
  case handed =>
    intro pass run member file issue made
    obtain ⟨before, stages, met, same, ran⟩ := sameFiles_of_mem_executeAll member
    dsimp only at ran
    rw [ran] at made
    rw [repository_of_addIssue_mem_calls made, same.language]
  case recorded =>
    refine ⟨_, issues_executeAll, ?_⟩
    intro issue member
    obtain ⟨⟨pass, reports⟩, credited, accepted⟩ := List.mem_flatMap.mp member
    rw [repository_of_mem_accepted accepted]
    exact (sameRepository_of_knows (knows_of_mem_credited credited)).key

/-- A sigma that ends a word behind ASCII letters, and one that does not between them. -/
theorem one_repository_for_a_language_sigma :
    let start := (ofLanguage "AΣ.b").track "a.go"
    let pass : Pass := ⟨"Linux", "aΣ.B", "/project"⟩
    let output := "[\x7b\"FilePath\":\"a.go\",\"LinesOfCode\":10,\"LinesOfComments\":2,"
      ++ "\"Violations\":[\x7b\"Type\":\"CC\",\"Description\":\"\",\"SrcLine\":5\x7d]\x7d]"
    let run := pass.execute (.writing output) host start ()
    let issue : NewIssue := ⟨⟨"aσ.b-go", "CC"⟩, "", some 5⟩
    SameRepository "goΣ" "GOΣ"
    ∧ start.sourceFiles pass.language ≠ []
    ∧ SameRepository "aΣ.B" "AΣ.b"
    ∧ Call.addIssue "a.go" issue ∈ run.calls
    ∧ issue.rule.repository = repositoryKey "AΣ.b" := by
  intro start pass output run issue
  have same : Text.sameUpToAsciiCase "goΣ".toList "GOΣ".toList := by decide
  have listed : start.sourceFiles pass.language ≠ [] := by decide
  have made : Call.addIssue "a.go" issue ∈ run.calls := by decide +kernel
  have law := one_repository_for_a_language start [(pass, .writing output)] ()
  exact ⟨law.1 _ _ same, listed, law.2.1 _ listed, made,
    law.2.2.1 pass run List.mem_cons_self "a.go" issue made⟩

end RecordingHost

end Findings
