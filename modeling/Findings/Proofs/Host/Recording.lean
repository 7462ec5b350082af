import Findings.Host.Recording
import Findings.Proofs.Host.Replay

/-!
Contract: a recording host after any calls.

Owns:
- the files and their numbers of lines, which no call changes;
- the issues, which grow by those that do not lie beyond the end of their file;
- the measures of one file and metric, of which the last saved value stays.

Does not own: the order in which measures of different files stand.
-/

namespace Findings

/-- The value that a call saves for a file and a metric. -/
def Call.valueFor? (file : String) (metric : Metric) (call : Call String) : Option Int64 :=
  call.measure?.bind fun saved =>
    if saved.1 = file ∧ saved.2.1 = metric then some saved.2.2 else none

namespace RecordingHost

/-! ## What a call does -/

/-- Two hosts with the same files, whatever was recorded. -/
structure SameFiles (left right : RecordingHost) : Prop where
  language : left.language = right.language
  files : left.files = right.files
  lineCounts : left.lineCounts = right.lineCounts

/-- An issue does not lie beyond the end of its file. -/
def Reaches (state : RecordingHost) (file : String) (issue : NewIssue) : Prop :=
  ∀ line ∈ issue.line, ∀ last ∈ state.lineCount? file, line ≤ last

theorem beyond?_eq_none_iff {state : RecordingHost} {file : String} {issue : NewIssue} :
    state.beyond? file issue = none ↔ state.Reaches file issue := by
  unfold beyond? Reaches
  cases issue.line with
  | none => simp
  | some line =>
      cases state.lineCount? file with
      | none => simp
      | some last => simp

instance (state : RecordingHost) (file : String) (issue : NewIssue) :
    Decidable (state.Reaches file issue) :=
  decidable_of_iff ((state.beyond? file issue).isNone = true)
    (Option.isNone_iff_eq_none.trans beyond?_eq_none_iff)

/-- The issue that is recorded when one is handed over. -/
def recorded? (state : RecordingHost) (handed : String × NewIssue) : Option RecordedIssue :=
  if state.Reaches handed.1 handed.2 then
    some ⟨handed.1, handed.2.rule, handed.2.message, handed.2.line⟩
  else
    none

def measuresOf (state : RecordingHost) (file : String) (metric : Metric) :
    List RecordedMeasure :=
  state.measures.filter fun measure => measure.file == file && measure.metric == metric

variable {state before after : RecordingHost} {file : String} {metric : Metric}
  {call : Call String} {calls : List (Call String)}

theorem SameFiles.refl : SameFiles state state :=
  ⟨rfl, rfl, rfl⟩

theorem SameFiles.symm (same : SameFiles before after) : SameFiles after before :=
  ⟨same.language.symm, same.files.symm, same.lineCounts.symm⟩

theorem SameFiles.trans {middle : RecordingHost} (first : SameFiles before middle)
    (second : SameFiles middle after) : SameFiles before after :=
  ⟨first.language.trans second.language, first.files.trans second.files,
    first.lineCounts.trans second.lineCounts⟩

/-- What is recorded for an issue depends on the files alone. -/
theorem SameFiles.recorded? (same : SameFiles before after) :
    before.recorded? = after.recorded? := by
  funext handed
  have reaches : before.Reaches handed.1 handed.2 ↔ after.Reaches handed.1 handed.2 := by
    simp only [Reaches, lineCount?, same.lineCounts]
  exact ite_congr (propext reaches) (fun _ => rfl) (fun _ => rfl)

/-- An issue is put behind all others or is not recorded. -/
theorem addIssue_snd {issue : NewIssue} :
    (state.addIssue file issue).2
      = { state with issues := state.issues ++ (state.recorded? (file, issue)).toList } := by
  unfold addIssue recorded?
  by_cases reaches : state.Reaches file issue
  · rw [beyond?_eq_none_iff.mpr reaches, if_pos reaches]
    rfl
  · rw [if_neg reaches]
    cases refused : state.beyond? file issue with
    | none => exact absurd (beyond?_eq_none_iff.mp refused) reaches
    | some place => simp

/-- No call changes the files. -/
theorem sameFiles_perform : SameFiles (host.perform state call) state := by
  cases call with
  | saveMeasure => exact ⟨rfl, rfl, rfl⟩
  | addIssue file issue =>
      change SameFiles (state.addIssue file issue).2 state
      rw [addIssue_snd]
      exact ⟨rfl, rfl, rfl⟩

/-- A call adds at most its issue, behind all others. -/
theorem issues_perform :
    (host.perform state call).issues
      = state.issues ++ (call.issue?.bind state.recorded?).toList := by
  cases call with
  | saveMeasure => exact (List.append_nil _).symm
  | addIssue file issue =>
      have handed : (Call.addIssue file issue).issue? = some (file, issue) := rfl
      change (state.addIssue file issue).2.issues = _
      rw [addIssue_snd, handed, Option.bind_some]

/-- A file has one measure after it was saved, the one that was saved. -/
theorem measuresOf_perform :
    (host.perform state call).measuresOf file metric
      = (call.valueFor? file metric).elim (state.measuresOf file metric)
          fun value => [⟨file, metric, value⟩] := by
  cases call with
  | saveMeasure name kind value =>
      change (state.saveMeasure name kind value).measuresOf file metric = _
      by_cases same : name = file ∧ kind = metric
      · obtain ⟨rfl, rfl⟩ := same
        simp [measuresOf, saveMeasure, Call.valueFor?, List.filter_filter]
      · have apart : (name == file && kind == metric) = false := by simpa using same
        have kept : ∀ measure ∈ state.measures,
            ((measure.file == file && measure.metric == metric)
              && !(measure.file == name && measure.metric == kind))
            = (measure.file == file && measure.metric == metric) := by
          grind
        have unsaved : (Call.saveMeasure name kind value).valueFor? file metric = none :=
          if_neg same
        simp only [measuresOf, saveMeasure, List.filter_append, List.filter_filter,
          List.filter_congr kept, unsaved, Option.elim_none, List.filter_cons, apart,
          Bool.false_eq_true, if_false, List.filter_nil, List.append_nil]
  | addIssue name issue =>
      change (state.addIssue name issue).2.measuresOf file metric = _
      rw [addIssue_snd]
      rfl

/-! ## What calls do -/

/-- No call changes the files. -/
theorem sameFiles_replay : SameFiles (host.replay state calls) state := by
  induction calls generalizing state with
  | nil => exact .refl
  | cons call calls inductionHypothesis => exact inductionHypothesis.trans sameFiles_perform

/-- The issues that reach are recorded in the order of the calls. -/
theorem issues_replay :
    (host.replay state calls).issues
      = state.issues ++ (calls.filterMap Call.issue?).filterMap state.recorded? := by
  induction calls generalizing state with
  | nil =>
      rw [Sink.replay_nil, List.filterMap_nil, List.filterMap_nil, List.append_nil]
  | cons call calls inductionHypothesis =>
      rw [Sink.replay_cons, inductionHypothesis, issues_perform,
        sameFiles_perform.recorded?, List.append_assoc]
      cases handed : call.issue? with
      | none =>
          rw [List.filterMap_cons_none handed]
          rfl
      | some issue =>
          rw [List.filterMap_cons_some handed, Option.bind_some]
          cases recorded : state.recorded? issue with
          | none =>
              rw [List.filterMap_cons_none recorded]
              rfl
          | some kept =>
              rw [List.filterMap_cons_some recorded]
              rfl

/-- Of the values saved for a file and a metric the last one stays, alone. -/
theorem measuresOf_replay :
    (host.replay state calls).measuresOf file metric
      = (calls.filterMap (Call.valueFor? file metric)).getLast?.elim
          (state.measuresOf file metric) fun value => [⟨file, metric, value⟩] := by
  induction calls generalizing state with
  | nil => rfl
  | cons call calls inductionHypothesis =>
      rw [Sink.replay_cons, inductionHypothesis, measuresOf_perform]
      cases saved : call.valueFor? file metric with
      | none => simp [saved]
      | some value =>
          simp only [List.filterMap_cons, saved, List.getLast?_cons, Option.elim_some]
          cases (calls.filterMap (Call.valueFor? file metric)).getLast? <;> rfl

end RecordingHost

end Findings
