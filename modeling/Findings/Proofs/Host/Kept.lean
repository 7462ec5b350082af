import Mathlib
import Findings.Proofs.Host.Recording
import Findings.Proofs.Host.Readable

/-!
Contract: all that a recording host keeps of any calls.

Owns:
- `lastMeasures`, measures without those that a later one of the same file and
  metric follows;
- the measures after any calls, which are the last ones in the order in which they
  were saved;
- when an issue is refused, which depends on the files alone, so that the issues
  that are kept can be told before the first call is made;
- `RecordingHost.Arises`, the hosts that can come about, and `RecordingHost.Sound`,
  which they all are: at most one measure for a file and metric, and no issue beyond
  the end of its file.

Does not own: who makes the calls.
-/

namespace Findings

/-! ## Last measures -/

structure RecordedMeasure.SameSubject (left right : RecordedMeasure) : Prop where
  file : left.file = right.file
  metric : left.metric = right.metric

namespace RecordedMeasure

variable {left right : RecordedMeasure}

theorem sameSubject_iff :
    left.SameSubject right ↔ left.file = right.file ∧ left.metric = right.metric :=
  ⟨fun same => ⟨same.file, same.metric⟩, fun ⟨file, metric⟩ => ⟨file, metric⟩⟩

instance : Decidable (left.SameSubject right) :=
  decidable_of_iff _ sameSubject_iff.symm

end RecordedMeasure

/-- Measures without those that a later one of the same file and metric follows. -/
def lastMeasures : List RecordedMeasure → List RecordedMeasure
  | [] => []
  | measure :: later =>
    if ∃ other ∈ later, measure.SameSubject other then
      lastMeasures later
    else
      measure :: lastMeasures later

variable {measures first second saves : List RecordedMeasure} {measure save : RecordedMeasure}

/-- The measures that none of some later ones replaces. -/
def unreplaced (later measures : List RecordedMeasure) : List RecordedMeasure :=
  measures.filter fun measure => ∀ other ∈ later, ¬ measure.SameSubject other

theorem unreplaced_nil : unreplaced [] measures = measures := by
  simp [unreplaced]

/-- What two lists of measures leave, one after the other, both together leave. -/
theorem unreplaced_unreplaced :
    unreplaced second (unreplaced first measures) = unreplaced (first ++ second) measures := by
  rw [unreplaced, unreplaced, List.filter_filter, unreplaced]
  congr 1
  funext measure
  simp only [List.mem_append, or_imp, forall_and, Bool.decide_and, Bool.and_comm]

theorem unreplaced_append :
    unreplaced saves (first ++ second) = unreplaced saves first ++ unreplaced saves second :=
  List.filter_append first second

/-- A measure is kept unless it is replaced later. -/
theorem lastMeasures_cons :
    lastMeasures (measure :: measures)
      = unreplaced measures [measure] ++ lastMeasures measures := by
  rw [lastMeasures, unreplaced]
  by_cases replaced : ∃ other ∈ measures, measure.SameSubject other
  · rw [if_pos replaced, List.filter_cons_of_neg (by simpa using replaced)]
    rfl
  · rw [if_neg replaced, List.filter_cons_of_pos (by simpa using replaced)]
    rfl

theorem mem_of_mem_lastMeasures (member : measure ∈ lastMeasures measures) :
    measure ∈ measures := by
  induction measures with
  | nil => exact member
  | cons first later inductionHypothesis =>
    rw [lastMeasures_cons, List.mem_append] at member
    rcases member with here | there
    · rw [List.mem_singleton.mp (List.mem_of_mem_filter here)]
      exact List.mem_cons_self
    · exact List.mem_cons_of_mem first (inductionHypothesis there)

/-- Of each file and metric only one measure is left. -/
theorem pairwise_lastMeasures :
    (lastMeasures measures).Pairwise fun left right => ¬ left.SameSubject right := by
  induction measures with
  | nil => exact .nil
  | cons first later inductionHypothesis =>
    rw [lastMeasures_cons, List.pairwise_append]
    refine ⟨List.Pairwise.filter _ (List.pairwise_singleton _ _), inductionHypothesis, ?_⟩
    intro left here right there
    have unreplaced := (List.mem_filter.mp here).2
    exact of_decide_eq_true unreplaced right (mem_of_mem_lastMeasures there)

theorem lastMeasures_eq_self
    (apart : measures.Pairwise fun left right => ¬ left.SameSubject right) :
    lastMeasures measures = measures := by
  induction measures with
  | nil => rfl
  | cons first later inductionHypothesis =>
    obtain ⟨fromFirst, laterApart⟩ := List.pairwise_cons.mp apart
    have unreplaced : ¬ ∃ other ∈ later, first.SameSubject other := by simpa using fromFirst
    rw [lastMeasures, if_neg unreplaced, inductionHypothesis laterApart]

/-- Later measures replace earlier ones and come behind them. -/
theorem lastMeasures_append :
    lastMeasures (first ++ second) = unreplaced second (lastMeasures first) ++ lastMeasures second := by
  induction first with
  | nil => rfl
  | cons measure later inductionHypothesis =>
    rw [List.cons_append, lastMeasures_cons, inductionHypothesis, lastMeasures_cons,
      unreplaced_append, unreplaced_unreplaced, List.append_assoc]

/-- The measure that a call saves, as it is kept. -/
def Call.saved? (call : Call String) : Option RecordedMeasure :=
  call.measure?.map fun (file, metric, value) => ⟨file, metric, value⟩

namespace RecordingHost

variable {state after : RecordingHost} {file : String} {issue : NewIssue} {call : Call String}
  {calls : List (Call String)}

/-! ## Measures -/

/-- A call that saves a measure replaces those of its file and metric; no other call
does anything to measures. -/
theorem measures_perform :
    (host.perform state call).measures
      = unreplaced call.saved?.toList state.measures ++ call.saved?.toList := by
  cases call with
  | saveMeasure file metric value =>
    have saved : (Call.saveMeasure file metric value).saved? = some ⟨file, metric, value⟩ := rfl
    have replaced : ∀ measure ∈ state.measures,
        (!(measure.file == file && measure.metric == metric))
          = decide (∀ other ∈ [(⟨file, metric, value⟩ : RecordedMeasure)],
            ¬ measure.SameSubject other) := by
      intro measure _
      rw [Bool.eq_iff_iff]
      simp [RecordedMeasure.sameSubject_iff]
    change (state.saveMeasure file metric value).measures = _
    rw [saved, Option.toList_some, saveMeasure, List.filter_congr replaced, unreplaced]
  | addIssue file issue =>
    change (state.addIssue file issue).2.measures = _
    rw [addIssue_snd]
    simp [Call.saved?, unreplaced]

/-- The measures that are not replaced stay, and the last ones of those that are saved
follow. -/
theorem measures_replay :
    (host.replay state calls).measures
      = unreplaced (calls.filterMap Call.saved?) state.measures
        ++ lastMeasures (calls.filterMap Call.saved?) := by
  induction calls generalizing state with
  | nil => rw [Sink.replay_nil, List.filterMap_nil, unreplaced_nil, lastMeasures, List.append_nil]
  | cons call calls inductionHypothesis =>
    rw [Sink.replay_cons, inductionHypothesis, measures_perform]
    cases saved : call.saved? with
    | none =>
      rw [List.filterMap_cons_none saved, Option.toList_none, unreplaced_nil, List.append_nil]
    | some save =>
      rw [List.filterMap_cons_some saved, Option.toList_some, unreplaced_append,
        unreplaced_unreplaced, lastMeasures_cons, List.append_assoc, List.singleton_append]

/-! ## Issues -/

/-- An issue is refused for one reason only: its line lies beyond the last one of a
file whose lines are known. -/
theorem addIssue_eq_refused_iff {reason : String} :
    (state.addIssue file issue).1 = .refused reason
      ↔ ∃ line last, issue.line = some line ∧ state.lineCount? file = some last
        ∧ last < line
        ∧ reason = "line " ++ toString line.toNat ++ " is out of range in " ++ file
          ++ ", which has " ++ toString last.toNat ++ " lines" := by
  unfold addIssue beyond?
  cases given : issue.line with
  | none => simp
  | some line =>
    cases known : state.lineCount? file with
    | none => simp
    | some last =>
      by_cases beyond : last < line
      · simp [beyond, eq_comm]
      · simp [beyond]

theorem addIssue_eq_accepted_iff :
    (state.addIssue file issue).1 = .accepted ↔ state.Reaches file issue := by
  rw [← beyond?_eq_none_iff, addIssue]
  cases state.beyond? file issue <;> simp

/-- A refusal changes nothing. -/
theorem addIssue_of_refused {reason : String}
    (refused : (state.addIssue file issue).1 = .refused reason) :
    (state.addIssue file issue).2 = state := by
  unfold addIssue at refused ⊢
  cases beyond : state.beyond? file issue with
  | none => simp [beyond] at refused
  | some place => rfl

/-- What is answered to an issue depends on the files alone. -/
theorem SameFiles.addIssue_fst (same : SameFiles after state) :
    (after.addIssue file issue).1 = (state.addIssue file issue).1 := by
  have beyond : after.beyond? file issue = state.beyond? file issue := by
    rw [beyond?, beyond?, lineCount?, lineCount?, same.lineCounts]
  rw [addIssue, addIssue, beyond]
  cases state.beyond? file issue <;> rfl

def kept (handed : String × NewIssue) : RecordedIssue :=
  ⟨handed.1, handed.2.rule, handed.2.message, handed.2.line⟩

def taken (state : RecordingHost) (handed : List (String × NewIssue)) :
    List (String × NewIssue) :=
  handed.filter fun issue => (state.addIssue issue.1 issue.2).1 = .accepted

theorem filterMap_recorded? {handed : List (String × NewIssue)} :
    handed.filterMap state.recorded? = (state.taken handed).map kept := by
  induction handed with
  | nil => rfl
  | cons issue later inductionHypothesis =>
    rw [taken] at inductionHypothesis ⊢
    by_cases reaches : state.Reaches issue.1 issue.2
    · have recorded : state.recorded? issue = some (kept issue) := if_pos reaches
      rw [List.filterMap_cons_some recorded, inductionHypothesis,
        List.filter_cons_of_pos (by simpa [addIssue_eq_accepted_iff] using reaches), List.map_cons]
    · have recorded : state.recorded? issue = none := if_neg reaches
      rw [List.filterMap_cons_none recorded, inductionHypothesis,
        List.filter_cons_of_neg (by simpa [addIssue_eq_accepted_iff] using reaches)]

/-! ## Sound hosts -/

/-- A host that holds at most one measure for a file and metric, and no issue beyond
the end of its file. -/
structure Sound (state : RecordingHost) : Prop where
  apart : state.measures.Pairwise fun left right => ¬ left.SameSubject right
  within : ∀ issue ∈ state.issues, ∀ line ∈ issue.line,
    ∀ last ∈ state.lineCount? issue.file, line ≤ last

/-- A host that was made for a language or by a scan, with files that were tracked and
calls that were made since. -/
inductive Arises : RecordingHost → Prop where
  | made {language : String} : Arises (ofLanguage language)
  | scanned {world : World} {language top : String} {suffixes : List String} {style : PathStyle}
      {state : RecordingHost}
      (made : scan world language top suffixes style = .ok state) :
      Arises state
  | tracked {state : RecordingHost} {path : String} (before : Arises state) :
      Arises (state.track path)
  | called {state : RecordingHost} {call : Call String} (before : Arises state) :
      Arises (host.perform state call)

/-- A host without measures and issues is sound, whatever files it has. -/
theorem sound_of_nothing (noMeasures : state.measures = []) (noIssues : state.issues = []) :
    state.Sound :=
  ⟨by simp [noMeasures], by simp [noIssues]⟩

theorem within_of_mem_taken {handed : String × NewIssue} {listed : List (String × NewIssue)}
    (member : handed ∈ state.taken listed) :
    ∀ line ∈ (kept handed).line, ∀ last ∈ state.lineCount? (kept handed).file,
      line ≤ last :=
  addIssue_eq_accepted_iff.mp (of_decide_eq_true (List.mem_filter.mp member).2)

/-- The measures after calls to a sound host are the last ones of all. -/
theorem Sound.measures_replay (sound : state.Sound) :
    (host.replay state calls).measures
      = lastMeasures (state.measures ++ calls.filterMap Call.saved?) := by
  rw [RecordingHost.measures_replay, lastMeasures_append, lastMeasures_eq_self sound.apart]

theorem issues_replay_taken :
    (host.replay state calls).issues
      = state.issues ++ (state.taken (calls.filterMap Call.issue?)).map kept := by
  rw [← filterMap_recorded?, issues_replay]

/-- No calls make a sound host unsound. -/
theorem Sound.replay (sound : state.Sound) : (host.replay state calls).Sound := by
  refine ⟨sound.measures_replay ▸ pairwise_lastMeasures, fun issue member => ?_⟩
  rw [issues_replay_taken, List.mem_append] at member
  rw [lineCount?, sameFiles_replay.lineCounts]
  rcases member with earlier | later
  · exact sound.within issue earlier
  · obtain ⟨handed, isTaken, rfl⟩ := List.mem_map.mp later
    exact within_of_mem_taken isTaken

/-- Every host that arises is sound. -/
theorem Arises.sound (arises : Arises state) : state.Sound := by
  induction arises with
  | made => exact sound_of_nothing rfl rfl
  | scanned made =>
    obtain ⟨node, -, -, scanned⟩ := scanned_of_scan made
    exact sound_of_nothing scanned.measures scanned.issues
  | tracked before sound => exact ⟨sound.apart, sound.within⟩
  | @called state call before sound =>
    have single : host.perform state call = host.replay state [call] := rfl
    exact single ▸ sound.replay

/-- Whatever a host keeps of any calls.  Of the measures those that a later one of
the same file and metric follows are dropped, and the others stay in the order in
which they were saved.  The issues that are accepted stay in the order in which they
were handed over; an issue is refused exactly if it has a line beyond the known last
line of its file, before the calls as well as after them, and leaves the host as it
was.  The files stay.  Every host that can come about is sound, and stays so. -/
theorem kept_of_calls (state : RecordingHost) (calls : List (Call String)) :
    let after := host.replay state calls
    let saved := calls.filterMap Call.saved?
    let handed := calls.filterMap Call.issue?
    after.measures = unreplaced saved state.measures ++ lastMeasures saved
      ∧ after.issues = state.issues ++ (state.taken handed).map kept
      ∧ SameFiles after state
      ∧ (∀ file issue,
        (after.addIssue file issue).1 = (state.addIssue file issue).1
        ∧ (∀ reason, (after.addIssue file issue).1 = .refused reason
          ↔ ∃ line last, issue.line = some line ∧ after.lineCount? file = some last
            ∧ last < line
            ∧ reason = "line " ++ toString line.toNat ++ " is out of range in " ++ file
              ++ ", which has " ++ toString last.toNat ++ " lines")
        ∧ ((after.addIssue file issue).1 ≠ .accepted → (after.addIssue file issue).2 = after))
      ∧ (Arises state → state.Sound)
      ∧ (state.Sound → after.Sound ∧ after.measures = lastMeasures (state.measures ++ saved)) := by
  intro after saved handed
  have same : SameFiles after state := sameFiles_replay
  refine ⟨measures_replay, issues_replay_taken, same, fun file issue => ⟨same.addIssue_fst,
    fun reason => addIssue_eq_refused_iff, fun notAccepted => ?_⟩, Arises.sound,
    fun sound => ⟨sound.replay, sound.measures_replay⟩⟩
  cases answered : (after.addIssue file issue).1 with
  | accepted => exact absurd answered notAccepted
  | refused reason => exact addIssue_of_refused answered
  | declined =>
    simp only [addIssue] at answered
    split at answered <;> cases answered

def twoLineFile : World where
  root := .folder [("a.go", .file [112, 10, 113] .readable)]
  current := []
  programFolder := "/"
  temporaryFolder := "/"

/-- A host that was made by a scan, with a measure that is saved twice and an issue
that is refused. -/
theorem kept_of_calls_twoLineFile :
    let state : RecordingHost := ⟨"go", ["a.go"], [("a.go", 2)], [], []⟩
    let rule : RuleKey := ⟨"go-go", "CC"⟩
    let calls : List (Call String) := [
      .saveMeasure "a.go" .linesOfCode 1, .addIssue "a.go" ⟨rule, "m", some 3⟩,
      .saveMeasure "b.go" .linesOfCode 5, .addIssue "a.go" ⟨rule, "m", some 2⟩,
      .saveMeasure "a.go" .linesOfCode 2]
    let after := host.replay state calls
    Arises state
      ∧ after.Sound
      ∧ after.measures = [⟨"b.go", .linesOfCode, 5⟩, ⟨"a.go", .linesOfCode, 2⟩]
      ∧ after.issues = [⟨"a.go", rule, "m", some 2⟩] := by
  intro state rule calls after
  have made : scan twoLineFile "go" "/" ["go"] .relative = .ok state := by
    have starts : twoLineFile.StartsAt "/" [] twoLineFile.root := .here (by cbv) rfl nofun
    have named : twoLineFile.root.WellNamed :=
      Node.wellNamed_folder (by decide) (by simpa using ⟨by decide, Node.wellNamed_file⟩)
    rw [scan_eq starts named (by decide +kernel)]
    exact congrArg Except.ok (by decide +kernel)
  obtain ⟨-, issues, -, -, sound, stays⟩ := kept_of_calls state calls
  obtain ⟨soundAfter, measures⟩ := stays (sound (.scanned made))
  exact ⟨.scanned made, soundAfter, measures.trans (by decide), issues.trans (by decide)⟩

end RecordingHost

end Findings
