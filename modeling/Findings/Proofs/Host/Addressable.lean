import Mathlib
import Findings.Proofs.Files.Folder
import Findings.Proofs.Host.Readable
import Findings.Proofs.Registry.Spelling

/-!
Contract: how far the files of a scan are told apart by their paths.

Owns:
- the names of the files that a scan tracks, which differ from each other;
- the registry of a scanned host: it finds the last of the files whose paths
  normalize alike, and files without backslashes in their names each as
  themselves;
- two files that a scan tracks and a registry takes for one.

A name may hold a backslash, which a registry takes for a slash.

Does not own: what is recorded about a file.
-/

namespace Findings

variable {world : World} {node : Node} {language asked top : String} {suffixes : List String}
  {style : PathStyle} {state : RecordingHost} {names others : List String}

/-! ## Files that are tracked -/

theorem Node.file_of_mem_tracked
    (named : node.WellNamed)
    (tracked : names ∈ node.tracked top suffixes) :
    ∃ content mode, node.at? names = some (.file content mode) :=
  (file_mem_stops_iff named).mp (mem_tracked.mp tracked).1

/-- A tracked file is reached by names that files can have. -/
theorem Node.isName_of_mem_tracked
    (named : node.WellNamed)
    (tracked : names ∈ node.tracked top suffixes) :
    ∀ name ∈ names, IsName name := by
  obtain ⟨content, mode, there⟩ := file_of_mem_tracked named tracked
  exact fun name member => named.isName_of_mem there member

/-- Only a file on its own is tracked without a name. -/
theorem Node.eq_nil_of_nil_mem_tracked
    (named : node.WellNamed)
    (alone : [] ∈ node.tracked top suffixes)
    (tracked : names ∈ node.tracked top suffixes) :
    names = [] := by
  obtain ⟨content, mode, there⟩ := file_of_mem_tracked named alone
  obtain ⟨other, otherMode, further⟩ := file_of_mem_tracked named tracked
  exact eq_nil_of_file there further

/-- No file is tracked twice. -/
theorem Node.nodup_tracked (named : node.WellNamed) : (node.tracked top suffixes).Nodup := by
  refine (nodup_stops node named []).filterMap fun first second names own other => ?_
  rw [(Stop.tracked?_eq_some_iff.mp own).1, (Stop.tracked?_eq_some_iff.mp other).1]

/-- Two tracked files whose paths normalize alike are the same, unless a name of
one has a backslash. -/
theorem Node.tracked_alike
    (named : node.WellNamed)
    (tracked : names ∈ node.tracked top suffixes)
    (otherTracked : others ∈ node.tracked top suffixes)
    (same : normalizePath (trackedPath style top names)
      = normalizePath (trackedPath style top others)) :
    names = others ∨ ∃ name ∈ names ++ others, '\\' ∈ name.toList := by
  by_cases given : names = []
  · subst given
    exact .inl (eq_nil_of_nil_mem_tracked named tracked otherTracked).symm
  by_cases othersGiven : others = []
  · subst othersGiven
    exact .inl (eq_nil_of_nil_mem_tracked named otherTracked tracked)
  by_cases plain : ∃ name ∈ names ++ others, '\\' ∈ name.toList
  · exact .inr plain
  · push Not at plain
    exact .inl (normalizePath_trackedPath_injective given othersGiven
      (isName_of_mem_tracked named tracked) (isName_of_mem_tracked named otherTracked) plain same)

/-- Tracked files without backslashes in their names are told apart by their
normalized paths. -/
theorem Node.tracked_apart
    (named : node.WellNamed)
    (plain : ∀ names ∈ node.tracked top suffixes, ∀ name ∈ names, '\\' ∉ name.toList) :
    ∀ names ∈ node.tracked top suffixes, ∀ others ∈ node.tracked top suffixes,
      normalizePath (trackedPath style top names) = normalizePath (trackedPath style top others) →
        names = others := by
  intro names tracked others otherTracked same
  rcases tracked_alike named tracked otherTracked same with agree | ⟨name, inside, backslash⟩
  · exact agree
  · exfalso
    rcases List.mem_append.mp inside with first | second
    · exact plain names tracked name first backslash
    · exact plain others otherTracked name second backslash

namespace RecordingHost

/-- What the registry of a scanned host knows.  It counts the normalized paths and
finds the last file whose path normalizes like a spelling.  Two tracked files are
taken for one only if a name of one of them has a backslash; if none has, each file
is counted and every spelling of its path finds it. -/
theorem scanned_files_told_apart
    (named : world.root.WellNamed)
    (made : scan world language top suffixes style = .ok state)
    (same : Text.sameUpToAsciiCase asked.toList language.toList) :
    let registry : FileRegistry String := .ofFiles (state.sourceFiles asked)
    ∃ node, world.scanned top = .ok node
      ∧ let tracked := node.tracked top suffixes
        tracked.Nodup
        ∧ state.files = tracked.map (trackedPath style top)
        ∧ registry.size = (state.files.map normalizePath).toFinset.card
        ∧ (∀ spelling, registry.get? spelling
          = state.files.reverse.find? fun path => normalizePath path = normalizePath spelling)
        ∧ (∀ names ∈ tracked, ∀ others ∈ tracked,
          normalizePath (trackedPath style top names) = normalizePath (trackedPath style top others) →
            names = others ∨ ∃ name ∈ names ++ others, '\\' ∈ name.toList)
        ∧ ((∀ names ∈ tracked, ∀ name ∈ names, '\\' ∉ name.toList) →
          registry.size = state.files.length
          ∧ ∀ path ∈ state.files, ∀ spelling, normalizePath spelling = normalizePath path →
            registry.lookup spelling = some (normalizePath path, path)) := by
  intro registry
  obtain ⟨node, started, rfl, scanned⟩ := scanned_of_scan made
  have files := scanned.files
  have nodeNamed := World.wellNamed_scanned named started
  have known : registry = .ofFiles (state.files.map fun path => ⟨path, path⟩) := by
    simp only [registry, sourceFiles, if_pos same]
  have counted : registry.size = (state.files.map normalizePath).toFinset.card := by
    rw [known, FileRegistry.size_ofFiles_self]
  refine ⟨node, started, Node.nodup_tracked nodeNamed, files, counted, ?found, ?alike, ?plain⟩
  case found =>
    intro spelling
    rw [known, FileRegistry.get?_ofFiles_self]
  case alike =>
    intro names tracked others otherTracked
    exact Node.tracked_alike nodeNamed tracked otherTracked
  case plain =>
    intro plain
    have alike := @Node.tracked_apart node top suffixes style nodeNamed plain
    constructor
    · have distinct : (state.files.map normalizePath).Nodup := by
        rw [files, List.map_map]
        exact (Node.nodup_tracked nodeNamed).map_on alike
      rw [counted, List.toFinset_card_of_nodup distinct, List.length_map]
    · intro path listed spelling spelled
      rw [known]
      apply FileRegistry.lookup_ofFiles_self ?_ listed spelled
      intro first firstListed second secondListed sameForm
      rw [files] at firstListed secondListed
      obtain ⟨names, tracked, rfl⟩ := List.mem_map.mp firstListed
      obtain ⟨others, otherTracked, rfl⟩ := List.mem_map.mp secondListed
      rw [alike names tracked others otherTracked sameForm]

/-- A folder with a file and, below another folder, a second one. -/
def besideFolder (name : String) : World where
  root := .folder [
    (name, .file [] .readable),
    ("a", .folder [("b.go", .file [] .readable)])]
  current := []
  programFolder := "/"
  temporaryFolder := "/"

theorem wellNamed_besideFolder {name : String} (isName : IsName name) (apart : name ≠ "a") :
    (besideFolder name).root.WellNamed := by
  have inner : (Node.folder [("b.go", .file [] .readable)]).WellNamed :=
    Node.wellNamed_folder (by decide) (by simpa using ⟨by decide, Node.wellNamed_file⟩)
  apply Node.wellNamed_folder
  · simpa using apart
  · simpa using ⟨⟨isName, Node.wellNamed_file⟩, by decide, inner⟩

theorem scan_besideFolder
    {name : String}
    (isName : IsName name)
    (apart : name ≠ "a")
    (readable : (besideFolder name).root.Readable "/") :
    scan (besideFolder name) "go" "/" suffixes .relative
      = .ok (((besideFolder name).root.tracked "/" suffixes).foldl
          (trackFrom (besideFolder name).root .relative "/") (ofLanguage "go")) := by
  have starts : (besideFolder name).StartsAt "/" [] (besideFolder name).root :=
    .here (by cbv) rfl nofun
  exact scan_eq starts (wellNamed_besideFolder isName apart) readable

/-- Two files without backslashes in their names are told apart. -/
theorem scanned_files_told_apart_besideFolder :
    let state : RecordingHost :=
      ⟨"go", ["c.go", "a/b.go"], [("a/b.go", 0), ("c.go", 0)], [], []⟩
    let registry : FileRegistry String := .ofFiles (state.sourceFiles "Go")
    scan (besideFolder "c.go") "go" "/" ["go"] .relative = .ok state
    ∧ registry.size = 2
    ∧ registry.lookup "./a\\b.go" = some ("a/b.go", "a/b.go") := by
  intro state registry
  have made : scan (besideFolder "c.go") "go" "/" ["go"] .relative = .ok state := by
    rw [scan_besideFolder (by decide) (by decide) (by decide +kernel)]
    exact congrArg Except.ok (by decide +kernel)
  have start : (besideFolder "c.go").scanned "/" = .ok (besideFolder "c.go").root := by cbv
  have tracked : (besideFolder "c.go").root.tracked "/" ["go"] = [["c.go"], ["a", "b.go"]] := by
    decide +kernel
  have same : Text.sameUpToAsciiCase "Go".toList "go".toList := by decide
  obtain ⟨node, started, -, -, -, -, -, plain⟩ := scanned_files_told_apart
    (wellNamed_besideFolder (by decide) (by decide)) made same
  obtain rfl : (besideFolder "c.go").root = node := Except.ok.inj (start.symm.trans started)
  obtain ⟨size, found⟩ := plain (by rw [tracked]; decide)
  exact ⟨made, size, found "a/b.go" (by simp [state]) "./a\\b.go" (by decide)⟩

/-- A name with a backslash, which spells the path of another file.  The registry
knows one of the two files only, and finds it for both paths. -/
theorem backslash_taken_for_slash :
    let world := besideFolder "a\\b.go"
    let state : RecordingHost :=
      ⟨"go", ["a\\b.go", "a/b.go"], [("a/b.go", 0), ("a\\b.go", 0)], [], []⟩
    let registry : FileRegistry String := .ofFiles (state.sourceFiles "go")
    world.root.WellNamed
    ∧ scan world "go" "/" ["go"] .relative = .ok state
    ∧ state.files.length = 2
    ∧ registry.size = 1
    ∧ registry.get? "a\\b.go" = some "a/b.go" := by
  intro world state registry
  have made : scan world "go" "/" ["go"] .relative = .ok state := by
    rw [scan_besideFolder (by decide) (by decide) (by decide +kernel)]
    exact congrArg Except.ok (by decide +kernel)
  exact ⟨wellNamed_besideFolder (by decide) (by decide), made, rfl, by decide, by decide⟩

end RecordingHost

end Findings
