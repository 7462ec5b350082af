import Mathlib
import Findings.Proofs.Host.Addressable
import Findings.Proofs.Host.Kept
import Findings.Proofs.Host.Lines

/-!
Contract: which files a scan tracks, and which lines of them it lets be called.

Owns:
- `EndsIn`, the places whose extension a list of suffixes asks for;
- the law that a scan tracks the files of the tree at such places, each once, and
  takes an issue exactly for the lines that a file has.

Does not own: what becomes of the issues.
-/

namespace Findings

variable {world : World} {node : Node} {language top : String} {suffixes others : List String}
  {names place : List String} {content : List UInt8} {mode : Mode}

/-! ## Names -/

/-- A file that a scan meets is called by the last name of its place. -/
theorem World.StartsAt.fileName?_belowPath
    (starts : world.StartsAt top place node)
    (solid : ∃ entries, world.root.at? (world.start top) = some (.folder entries))
    (named : node.WellNamed)
    (file : node.at? names = some (.file content mode)) :
    fileName? (belowPath top names) = (place ++ names).getLast? := by
  by_cases given : names = []
  · -- The file is the start itself, which is no link.
    subst given
    obtain rfl : node = .file content mode := Option.some.inj file
    cases starts with
    | here led there noLink =>
      obtain ⟨name, ends, last⟩ := fileName?_of_resolve led solid there
      rw [List.append_nil, last]
      exact ends
  · rw [List.getLast?_append_of_ne_nil _ given]
    exact Findings.fileName?_belowPath given fun name => named.isName_of_mem file

/-! ## Suffixes -/

/-- A list of suffixes asks for an extension, with or without dots in front of it. -/
def Asks (suffixes : List String) (extension : List Char) : Prop :=
  ∃ suffix ∈ suffixes, ∃ dots, suffix.toList = List.replicate dots '.' ++ extension

/-- A place whose name has an extension that a list of suffixes asks for. -/
def EndsIn (suffixes : List String) (location : List String) : Prop :=
  ∃ name ∈ location.getLast?, ∃ stem extension,
    Extends stem extension name.toList ∧ Asks suffixes extension

theorem dropWhile_dots_eq_iff {chars extension : List Char} (plain : '.' ∉ extension) :
    chars.dropWhile (· = '.') = extension
      ↔ ∃ dots, chars = List.replicate dots '.' ++ extension := by
  constructor
  · rintro rfl
    have dots : chars.takeWhile (· = '.')
        = List.replicate (chars.takeWhile (· = '.')).length '.' :=
      List.eq_replicate_of_mem fun c member => by simpa using List.mem_takeWhile_imp member
    exact ⟨_, by rw [← dots, List.takeWhile_append_dropWhile]⟩
  · rintro ⟨dots, rfl⟩
    rw [List.dropWhile_append_of_pos (by simp +contextual), List.dropWhile_eq_self_iff]
    intro solid
    simpa using fun isDot : extension[0] = '.' => plain (isDot ▸ List.getElem_mem solid)

/-- Dots in front of a suffix do not matter. -/
theorem asks_iff {extension : List Char} (plain : '.' ∉ extension) :
    (suffixes.any fun suffix => suffix.toList.dropWhile (· = '.') = extension)
      ↔ Asks suffixes extension := by
  simp only [List.any_eq_true, decide_eq_true_eq, dropWhile_dots_eq_iff plain, Asks]

/-- A path has a suffix exactly if the extension of its last name is asked for. -/
theorem hasSuffix_iff {path : String} :
    hasSuffix suffixes path ↔ ∃ name ∈ fileName? path, ∃ stem extension,
      Extends stem extension name.toList ∧ Asks suffixes extension := by
  rw [hasSuffix, extension?_eq]
  cases named : fileName? path with
  | none => simp
  | some name =>
    obtain ⟨stem, extension, parts, split⟩ | ⟨noDot, split⟩ := splitName_cases name.toList
    · simp only [Option.bind_some, split, Option.map_some, Option.any_some, String.toList_ofList,
        asks_iff parts.plain, Option.mem_some_iff, exists_eq_left']
      refine ⟨fun asks => ⟨stem, extension, parts, asks⟩, ?_⟩
      rintro ⟨other, further, same, asks⟩
      obtain ⟨rfl, rfl⟩ : stem = other ∧ extension = further := by
        simpa [split] using same.splitName_eq
      exact asks
    · simp only [Option.bind_some, split, Option.map_none, Option.any_none, Option.mem_some_iff,
        exists_eq_left', Bool.false_eq_true, false_iff]
      rintro ⟨stem, extension, parts, -⟩
      simpa [split] using parts.splitName_eq

theorem hasSuffix_congr
    (same : ∀ extension, '.' ∉ extension → (Asks suffixes extension ↔ Asks others extension)) :
    hasSuffix suffixes = hasSuffix others := by
  funext path
  rw [Bool.eq_iff_iff, hasSuffix_iff, hasSuffix_iff]
  have alike (stem extension name : List Char) :
      Extends stem extension name ∧ Asks suffixes extension
        ↔ Extends stem extension name ∧ Asks others extension :=
    and_congr_right fun parts => same extension parts.plain
  simp only [alike]

/-! ## Tracked files -/

variable {style : PathStyle}

/-- Different files of a tree are tracked under different paths. -/
theorem Node.trackedPath_injective
    {other : List UInt8}
    {otherMode : Mode}
    (named : node.WellNamed)
    (first : node.at? names = some (.file content mode))
    (second : node.at? others = some (.file other otherMode))
    (same : trackedPath style top names = trackedPath style top others) :
    names = others := by
  by_cases given : names = []
  · subst given
    exact (eq_nil_of_file first second).symm
  by_cases othersGiven : others = []
  · subst othersGiven
    exact eq_nil_of_file second first
  have areNames : ∀ name ∈ names, IsName name := fun name => named.isName_of_mem first
  have othersAreNames : ∀ name ∈ others, IsName name := fun name => named.isName_of_mem second
  have alike := congrArg String.toList same
  rw [toList_trackedPath given areNames, toList_trackedPath othersGiven othersAreNames] at alike
  exact slashed_injective given othersGiven areNames othersAreNames
    (List.append_cancel_left alike)

/-- A scan tracks exactly the files whose names end in a suffix that is asked for. -/
theorem Node.mem_tracked_iff
    (named : node.WellNamed)
    (starts : world.StartsAt top place node)
    (solid : ∃ entries, world.root.at? (world.start top) = some (.folder entries)) :
    names ∈ node.tracked top suffixes
      ↔ ∃ content mode, node.at? names = some (.file content mode)
        ∧ EndsIn suffixes (place ++ names) := by
  rw [mem_tracked, file_mem_stops_iff named, hasSuffix_iff]
  constructor
  · rintro ⟨⟨content, mode, file⟩, ends⟩
    rw [starts.fileName?_belowPath solid named file] at ends
    exact ⟨content, mode, file, ends⟩
  · rintro ⟨content, mode, file, ends⟩
    rw [starts.fileName?_belowPath solid named file]
    exact ⟨⟨content, mode, file⟩, ends⟩

namespace RecordingHost

variable {state : RecordingHost} {issue : NewIssue} {line : UInt32} {key : String}

/-- A scan knows the number of lines of each file that it tracks. -/
theorem lineCount?_of_scan
    (starts : world.StartsAt top place node)
    (named : node.WellNamed)
    (readable : node.Readable top)
    (made : scan world language top suffixes style = .ok state)
    (tracked : names ∈ node.tracked top suffixes)
    (file : node.at? names = some (.file content mode)) :
    state.lineCount? (trackedPath style top names) = some (lineCount content) := by
  obtain ⟨_, again, -, scanned⟩ := scanned_of_scan made
  obtain rfl := Except.ok.inj (starts.scanned_eq.symm.trans again)
  have listed : trackedPath style top names ∈ state.files :=
    scanned.files ▸ List.mem_map_of_mem tracked
  obtain ⟨known, inside, octets, same, read, counted⟩ := scanned.lines _ listed
  -- The file of that path can only be the one that was asked for.
  obtain ⟨_, _, there⟩ := Node.file_of_mem_tracked named inside
  obtain rfl := Node.trackedPath_injective named there file same
  obtain ⟨base, leads⟩ := starts.leads_belowPath named readable file rfl
  obtain rfl : octets = content := Except.ok.inj (read.symm.trans leads.read)
  exact counted

/-- An issue at a line is accepted exactly if the file has so many lines. -/
theorem addIssue_eq_accepted_iff_line
    {lines : List (List UInt8)}
    {last : UInt32}
    (known : state.lineCount? key = some last)
    (counted : last.toNat = lines.length)
    (called : issue.line = some line)
    (positive : 0 < line.toNat) :
    (state.addIssue key issue).1 = .accepted
      ↔ ∃ octets, lines[line.toNat - 1]? = some octets := by
  have inside : (∃ octets, lines[line.toNat - 1]? = some octets) ↔ line ≤ last := by
    rw [← Option.isSome_iff_exists, isSome_getElem?, UInt32.le_iff_toNat_le, counted]
    omega
  rw [addIssue_eq_accepted_iff, inside]
  simp only [Reaches, called, known, Option.mem_some_iff, forall_eq']

/-- What a scan tracks: each file of the tree at its start whose extension the suffixes
ask for, once and under its names.  It takes an issue for a line of such a file exactly
if the file has that line, unless the file has too many lines for a number of 32 bits.
Neither the order of the suffixes nor how often one comes nor the dots in front of them
change anything. -/
theorem scan_tracks
    (named : world.root.WellNamed)
    (solid : ∃ entries, world.root.at? (world.start top) = some (.folder entries))
    (starts : world.StartsAt top place node)
    (readable : node.Readable top) :
    ∃ (state : RecordingHost) (tracked : List (List String)),
      scan world language top suffixes .relative = .ok state
      ∧ (∀ names, names ∈ tracked ↔ ∃ content mode,
        node.at? names = some (.file content mode) ∧ EndsIn suffixes (place ++ names))
      ∧ tracked.Nodup
      ∧ state.files = tracked.map (String.intercalate "/")
      ∧ state.files.Nodup
      ∧ (∀ names ∈ tracked, ∀ content mode,
        node.at? names = some (.file content mode) →
          let path := String.intercalate "/" names
          ∃ last, state.lineCount? path = some last
            ∧ last.toNat = (contentLines content).length % UInt32.size
            ∧ (content.length < UInt32.size - 1 →
              last.toNat = (contentLines content).length
              ∧ ∀ issue line, issue.line = some line → 0 < line.toNat →
                ((state.addIssue path issue).1 = .accepted
                  ↔ ∃ octets, (contentLines content)[line.toNat - 1]? = some octets)))
      ∧ ∀ others : List String,
        (∀ extension, '.' ∉ extension → (Asks suffixes extension ↔ Asks others extension)) →
          scan world language top others .relative = .ok state := by
  have started := starts.scanned_eq
  have nodeNamed := World.wellNamed_scanned named started
  obtain ⟨state, made⟩ : ∃ state, scan world language top suffixes .relative = .ok state :=
    ⟨_, scan_eq starts nodeNamed readable⟩
  obtain ⟨_, again, -, scanned⟩ := scanned_of_scan made
  obtain rfl := Except.ok.inj (started.symm.trans again)
  have files := scanned.files
  refine ⟨state, node.tracked top suffixes, made,
    fun names => Node.mem_tracked_iff nodeNamed starts solid, Node.nodup_tracked nodeNamed, files,
    ?once, ?lines, ?suffixes⟩
  case once =>
    rw [files]
    refine (Node.nodup_tracked nodeNamed).map_on fun first firstTracked second secondTracked => ?_
    obtain ⟨_, _, firstFile⟩ := Node.file_of_mem_tracked nodeNamed firstTracked
    obtain ⟨_, _, secondFile⟩ := Node.file_of_mem_tracked nodeNamed secondTracked
    exact Node.trackedPath_injective nodeNamed firstFile secondFile
  case lines =>
    intro names tracked content mode file path
    have known := lineCount?_of_scan starts nodeNamed readable made tracked file
    refine ⟨lineCount content, known, toNat_lineCount, fun short => ?_⟩
    have counted := toNat_lineCount_of_lt short
    exact ⟨counted, fun issue line called positive =>
      addIssue_eq_accepted_iff_line known counted called positive⟩
  case suffixes =>
    intro others same
    have alike : visit world top others .relative = visit world top suffixes .relative := by
      funext state stop
      cases stop with
      | folder => rfl
      | file => simp only [visit, hasSuffix_congr same]
    rw [← made, scan, scan, alike]

/-- Below a link: files with and without an extension, a file in a folder, and another
link. -/
def linkedFolder : World where
  root := .folder [
    ("src", .link "p"),
    ("p", .folder [
      ("a.go", .file [120, 10, 121] .readable),
      (".go", .file [120] .readable),
      ("q", .folder [("..go", .file [10] .readable)]),
      ("l.go", .link "a.go")])]
  current := []
  programFolder := "/"
  temporaryFolder := "/"

theorem wellNamed_linkedFolder : linkedFolder.root.WellNamed := by
  have deeper : (Node.folder [("..go", .file [10] .readable)]).WellNamed :=
    Node.wellNamed_folder (by decide) (by simpa using ⟨by decide, Node.wellNamed_file⟩)
  have inner : (Node.folder [
      ("a.go", .file [120, 10, 121] .readable),
      (".go", .file [120] .readable),
      ("q", .folder [("..go", .file [10] .readable)]),
      ("l.go", .link "a.go")]).WellNamed := by
    apply Node.wellNamed_folder (by decide)
    simpa using ⟨⟨by decide, Node.wellNamed_file⟩, ⟨by decide, Node.wellNamed_file⟩,
      ⟨by decide, deeper⟩, by decide, Node.wellNamed_link⟩
  apply Node.wellNamed_folder (by decide)
  simpa using ⟨⟨by decide, Node.wellNamed_link⟩, by decide, inner⟩

/-- Two files are tracked, whatever dots the suffix has; one of them has two lines. -/
theorem scan_tracks_linkedFolder :
    let inner : Node := .folder [
      ("a.go", .file [120, 10, 121] .readable),
      (".go", .file [120] .readable),
      ("q", .folder [("..go", .file [10] .readable)]),
      ("l.go", .link "a.go")]
    let state : RecordingHost := ⟨"go", ["a.go", "q/..go"], [("q/..go", 1), ("a.go", 2)], [], []⟩
    let rule : RuleKey := ⟨"go-go", "CC"⟩
    linkedFolder.root.WellNamed
      ∧ linkedFolder.root.at? (linkedFolder.start "/src") = some linkedFolder.root
      ∧ linkedFolder.StartsAt "/src" ["src"] inner
      ∧ inner.Readable "/src"
      ∧ scan linkedFolder "go" "/src" ["..go", "rs"] .relative = .ok state
      ∧ scan linkedFolder "go" "/src" [".rs", "go", "rs"] .relative = .ok state
      ∧ (state.addIssue "a.go" ⟨rule, "m", some 2⟩).1 = .accepted
      ∧ (state.addIssue "a.go" ⟨rule, "m", some 3⟩).1 ≠ .accepted := by
  intro inner state rule
  have starts : linkedFolder.StartsAt "/src" ["src"] inner :=
    .behindLink (by cbv) (by cbv) ⟨by cbv, by cbv⟩
  have readable : inner.Readable "/src" := by
    decide +kernel
  have made : scan linkedFolder "go" "/src" ["..go", "rs"] .relative = .ok state := by
    rw [scan_eq starts (World.wellNamed_scanned wellNamed_linkedFolder starts.scanned_eq) readable]
    exact congrArg Except.ok (by decide +kernel)
  obtain ⟨_, tracked, again, members, -, -, -, lines, unchanged⟩ :=
    scan_tracks wellNamed_linkedFolder ⟨_, rfl⟩ starts readable
  obtain rfl := Except.ok.inj (made.symm.trans again)
  have parts : Extends ['a'] ['g', 'o'] "a.go".toList := ⟨by decide, by decide, by decide⟩
  have asks : Asks ["..go", "rs"] ['g', 'o'] := ⟨"..go", by decide, 2, by decide⟩
  have file : inner.at? ["a.go"] = some (.file [120, 10, 121] .readable) := by cbv
  have listed : ["a.go"] ∈ tracked :=
    (members _).mpr ⟨_, _, file, "a.go", rfl, _, _, parts, asks⟩
  obtain ⟨last, -, -, short⟩ := lines _ listed _ _ file
  obtain ⟨-, accepted⟩ := short (by decide)
  have two : contentLines [120, 10, 121] = [[120], [121]] := by decide
  rw [two] at accepted
  refine ⟨wellNamed_linkedFolder, rfl, starts, readable, made, unchanged _ fun extension plain => ?_,
    (accepted _ 2 rfl (by decide)).mpr ⟨_, rfl⟩, fun taken => ?_⟩
  · rw [← asks_iff plain, ← asks_iff plain]
    simpa using Or.inr
  · obtain ⟨octets, third⟩ := (accepted _ 3 rfl (by decide)).mp taken
    cases third

end RecordingHost

end Findings
