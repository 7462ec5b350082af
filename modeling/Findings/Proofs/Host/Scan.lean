import Findings.Host.Scan
import Findings.Proofs.Files.Tree

/-!
Contract: what a scan knows about the files that it tracks.

Owns:
- `Node.tracked`, the names that lead to the files that a scan tracks;
- the law that a host that was just made by a scan tracks these files, has recorded
  nothing, and knows the number of lines of each of them, which is that of what was
  read at its path.

Does not own: when a scan fails.
-/

namespace Findings

variable {world : World} {language top : String} {suffixes : List String} {style : PathStyle}
  {state before after : RecordingHost} {stop : Stop} {stops : List Stop}

def Stop.tracked? (top : String) (suffixes : List String) : Stop → Option (List String)
  | .file names => if hasSuffix suffixes (belowPath top names) then some names else none
  | .folder _ => none

theorem Stop.tracked?_eq_some_iff {names : List String} :
    stop.tracked? top suffixes = some names
      ↔ stop = .file names ∧ hasSuffix suffixes (belowPath top names) = true := by
  cases stop with
  | folder => simp [tracked?]
  | file others =>
    by_cases chosen : hasSuffix suffixes (belowPath top others)
    · simp only [tracked?, chosen, if_true, Option.some.injEq, file.injEq]
      exact ⟨fun same => ⟨same, same ▸ chosen⟩, And.left⟩
    · simp only [tracked?, chosen, Bool.false_eq_true, if_false, reduceCtorEq, file.injEq, false_iff,
        not_and]
      exact fun same => same ▸ chosen

/-- The names that lead to the files below a node that a scan tracks. -/
def Node.tracked (node : Node) (top : String) (suffixes : List String) : List (List String) :=
  (node.stops []).filterMap (Stop.tracked? top suffixes)

theorem Node.mem_tracked {node : Node} {names : List String} :
    names ∈ node.tracked top suffixes
      ↔ .file names ∈ node.stops [] ∧ hasSuffix suffixes (belowPath top names) = true := by
  simp only [tracked, List.mem_filterMap, Stop.tracked?_eq_some_iff]
  constructor
  · rintro ⟨_, member, rfl, chosen⟩
    exact ⟨member, chosen⟩
  · exact fun ⟨member, chosen⟩ => ⟨_, member, rfl, chosen⟩

namespace RecordingHost

/-- What a scan does at a place, if it goes on. -/
theorem visit_eq_ok
    (done : visit world top suffixes style before stop = .ok after) :
    (stop.tracked? top suffixes = none ∧ after = before)
      ∨ ∃ names content, stop.tracked? top suffixes = some names
        ∧ world.read (belowPath top names) = .ok content
        ∧ after = before.trackLines (trackedPath style top names) (lineCount content) := by
  cases stop with
  | folder names =>
    simp only [visit] at done
    split at done
    · exact .inl ⟨rfl, (Except.ok.inj done).symm⟩
    · cases done
  | file names =>
    by_cases chosen : hasSuffix suffixes (belowPath top names)
    · simp only [visit, chosen, if_true] at done
      split at done
      case h_1 content held =>
        exact .inr ⟨names, content, Stop.tracked?_eq_some_iff.mpr ⟨rfl, chosen⟩, held,
          (Except.ok.inj done).symm⟩
      case h_2 => cases done
    · simp only [visit, chosen] at done
      exact .inl ⟨by simp [Stop.tracked?, chosen], (Except.ok.inj done).symm⟩

/-- A host that was made by a scan and was not called since, with files at given
names. -/
structure Scanned
    (world : World)
    (top : String)
    (style : PathStyle)
    (tracked : List (List String))
    (state : RecordingHost) :
    Prop where
  measures : state.measures = []
  issues : state.issues = []
  files : state.files = tracked.map (trackedPath style top)
  /-- The lines of a tracked file are those of what is read at its path. -/
  lines : ∀ path ∈ state.files, ∃ names ∈ tracked, ∃ content,
    trackedPath style top names = path ∧ world.read (belowPath top names) = .ok content
      ∧ state.lineCount? path = some (lineCount content)

/-- A visit adds at most the file that it comes by, with the lines that are read from
it. -/
theorem Scanned.visit
    {tracked : List (List String)}
    (scanned : Scanned world top style tracked before)
    (done : visit world top suffixes style before stop = .ok after) :
    after.language = before.language
      ∧ Scanned world top style (tracked ++ (stop.tracked? top suffixes).toList) after := by
  obtain ⟨other, rfl⟩ | ⟨names, content, own, held, rfl⟩ := visit_eq_ok done
  · rw [other, Option.toList_none, List.append_nil]
    exact ⟨rfl, scanned⟩
  rw [own, Option.toList_some]
  refine ⟨rfl, scanned.measures, scanned.issues, by simp [trackLines, scanned.files], ?_⟩
  intro path listed
  by_cases same : path = trackedPath style top names
  · subst same
    exact ⟨names, by simp, content, rfl, held, by simp [trackLines, lineCount?]⟩
  · have earlier : path ∈ before.files := by
      simpa [trackLines, same] using listed
    obtain ⟨known, inside, octets, named, read, counted⟩ := scanned.lines path earlier
    have apart : (path == trackedPath style top names) = false := by simpa using same
    refine ⟨known, List.mem_append_left _ inside, octets, named, read, ?_⟩
    simpa [trackLines, lineCount?, List.lookup_cons, apart] using counted

/-- Visits one after another add the files that they come by, in order. -/
theorem Scanned.foldlM_visit
    {tracked : List (List String)}
    (scanned : Scanned world top style tracked before)
    (done : stops.foldlM (RecordingHost.visit world top suffixes style) before = .ok after) :
    after.language = before.language
      ∧ Scanned world top style (tracked ++ stops.filterMap (Stop.tracked? top suffixes)) after := by
  induction stops generalizing before tracked with
  | nil =>
    obtain rfl := Except.ok.inj done
    exact ⟨rfl, by rwa [List.filterMap_nil, List.append_nil]⟩
  | cons stop more inductionHypothesis =>
    rw [List.foldlM_cons] at done
    cases first : RecordingHost.visit world top suffixes style before stop with
    | error fault => simp [first, bind, Except.bind] at done
    | ok middle =>
      rw [first] at done
      obtain ⟨sameLanguage, onwards⟩ := scanned.visit first
      obtain ⟨language, all⟩ := inductionHypothesis onwards done
      refine ⟨language.trans sameLanguage, ?_⟩
      rw [List.append_assoc] at all
      cases own : stop.tracked? top suffixes with
      | none => simpa [own] using all
      | some names => simpa [own] using all

/-- A scan tracks the chosen files below its node, and knows the lines of each. -/
theorem scanned_of_scan (made : scan world language top suffixes style = .ok state) :
    ∃ node, world.scanned top = .ok node ∧ state.language = language
      ∧ Scanned world top style (node.tracked top suffixes) state := by
  unfold scan at made
  cases started : world.scanned top with
  | error fault => simp [started, Except.mapError, bind, Except.bind] at made
  | ok node =>
    rw [started] at made
    have start : Scanned world top style [] (ofLanguage language) :=
      ⟨rfl, rfl, rfl, by simp [ofLanguage]⟩
    exact ⟨node, rfl, start.foldlM_visit made⟩

end RecordingHost

end Findings
