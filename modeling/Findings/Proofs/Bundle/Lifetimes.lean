import Mathlib
import Findings.Host.Recording
import Findings.Pass.Analyzer
import Findings.Proofs.Bundle.Copying
import Findings.Proofs.Files.Steps
import Findings.Proofs.Pass.Outcome

/-!
Contract: the copies in a folder for temporary files, while programs are
extracted and released and passes run.

Owns:
- `Extracting.Reachable`, the files and the live programs after any extractions,
  releases and passes, each of which may fail at any step;
- `Accounts`, what the folder holds: its first entries, and one new file for each
  live program that owns a copy;
- `Extracting.Reachable.accounts`, by induction over what was done;
- bundles, which no extraction and no release changes.

A program that is analyzing leaves the folder and the bundles alone; that is what
a pass asks for.
-/

namespace Findings

variable {folder path : String} {bundles : List String} {start world after extracted used : World}
  {live : List Binary} {binary : Binary} {location place : List String}
  {entries : List (String × Node)} {node : Node}

/-! ## What is done -/

/-- A run that leaves a folder and what some paths lead to alone. -/
structure Untouched (folder : String) (bundles : List String) (before after : World) : Prop where
  openFolder : after.openFolder folder = before.openFolder folder
  leads : ∀ path ∈ bundles, ∀ place node, before.Leads path place node →
    after.Leads path place node

/-- The stages of a pass whose copies are made on a course, with any way of
running a program. -/
def Bundle.stagesAlong
    (bundle : Bundle)
    (course : CopyCourse)
    (run : Invocation → World → Option (Except ProcessError Captured × World)) :
    Stages World where
  extractorName := "archive_extractor"
  extract := bundle.extractAlong course
  run := run
  release binary world := world.release binary

theorem Bundle.stagesAlong_smooth
    {bundle : Bundle}
    {launcher : Launcher World}
    {limit : Option Nat} :
    bundle.stagesAlong .smooth (runAnalyzer launcher limit) = bundle.stages launcher limit := by
  simp only [stagesAlong, stages, Stages.mk.injEq, true_and, and_true]
  exact funext fun osName => funext fun world => extractAlong_smooth

/-- If a pass extracts a program, its run leaves the folder for copies and the
bundles alone, if it ends. -/
def Bundle.Quiet
    (bundle : Bundle)
    (course : CopyCourse)
    (run : Invocation → World → Option (Except ProcessError Captured × World))
    (bundles : List String)
    (pass : Pass)
    (world : World) : Prop :=
  ∀ binary extracted, bundle.extractAlong course pass.osName world = (.ok binary, extracted) →
    ∀ captured used, run (pass.invocation binary) extracted = some (captured, used) →
      Untouched (world.absolute bundle.temporaryFolder) bundles extracted used

/-- The files and the live programs after anything that was done with bundles and
one folder for copies, which is given by its absolute path.  A pass whose program
never ends stays at what its extraction left. -/
inductive Extracting.Reachable (folder : String) (bundles : List String) (start : World) :
    World → List Binary → Prop where
  | start : Extracting.Reachable folder bundles start start []
  | extracted
      {world after : World} {live : List Binary} {bundle : Bundle} {course osName binary}
      (before : Extracting.Reachable folder bundles start world live)
      (inFolder : world.absolute bundle.temporaryFolder = folder)
      (made : bundle.extractAlong course osName world = (.ok binary, after)) :
      Extracting.Reachable folder bundles start after (live ++ [binary])
  | failed
      {world after : World} {live : List Binary} {bundle : Bundle} {course osName failure}
      (before : Extracting.Reachable folder bundles start world live)
      (inFolder : world.absolute bundle.temporaryFolder = folder)
      (made : bundle.extractAlong course osName world = (.error failure, after)) :
      Extracting.Reachable folder bundles start after live
  | released
      {world : World} {front back : List Binary} {binary : Binary}
      (before : Extracting.Reachable folder bundles start world (front ++ binary :: back)) :
      Extracting.Reachable folder bundles start (world.release binary) (front ++ back)
  | passed
      {world : World} {live : List Binary} {bundle : Bundle} {course}
      {run : Invocation → World → Option (Except ProcessError Captured × World)}
      {pass : Pass}
      {σ η : Type}
      {host : Host σ η}
      {state : σ}
      (before : Extracting.Reachable folder bundles start world live)
      (inFolder : world.absolute bundle.temporaryFolder = folder)
      (quiet : bundle.Quiet course run bundles pass world)
      (ended : (pass.execute (bundle.stagesAlong course run) host state world).outcome ≠ none) :
      Extracting.Reachable folder bundles start
        (pass.execute (bundle.stagesAlong course run) host state world).surroundings live

/-! ## Accounts -/

/-- The path and the location of the copy that a program owns. -/
def Binary.owned? (binary : Binary) : Option (String × List String) :=
  binary.copy.map fun location => (binary.path, location)

/-- A copy as an entry of a folder: a file that can be run. -/
def copyEntry (copy : String × List UInt8) : String × Node :=
  (copy.1, .file copy.2 .program)

theorem map_fst_copyEntry {copies : List (String × List UInt8)} :
    (copies.map copyEntry).map Prod.fst = copies.map Prod.fst := by
  simp [copyEntry, Function.comp_def]

theorem file_of_mem_copies {copies : List (String × List UInt8)} :
    ∀ entry ∈ copies.map copyEntry, ∃ content mode, entry.2 = .file content mode := by
  intro entry member
  obtain ⟨copy, -, rfl⟩ := List.mem_map.mp member
  exact ⟨copy.2, .program, rfl⟩

/-- What a folder holds, compared with a start at which no program was live. -/
def Accounts (folder : String) (start world : World) (live : List Binary) : Prop :=
  match start.openFolder folder with
  | .error fault => world.openFolder folder = .error fault ∧ live.filterMap Binary.owned? = []
  | .ok (location, entries) =>
    ∃ copies : List (String × List UInt8),
      world.openFolder folder = .ok (location, entries ++ copies.map copyEntry)
        ∧ (copies.map Prod.fst).Nodup
        ∧ (∀ name ∈ copies.map Prod.fst, name ∉ entries.map Prod.fst)
        ∧ live.filterMap Binary.owned?
          = copies.map fun copy => (joinPath folder copy.1, location ++ [copy.1])

namespace Accounts

theorem begin : Accounts folder start start [] := by
  unfold Accounts
  cases opened : start.openFolder folder with
  | error fault => exact ⟨rfl, rfl⟩
  | ok opened => exact ⟨[], by simp⟩

/-- Only the entries of the folder count. -/
theorem of_openFolder_eq
    (accounts : Accounts folder start world live)
    (same : after.openFolder folder = world.openFolder folder) :
    Accounts folder start after live := by
  unfold Accounts at accounts ⊢
  rwa [same]

/-- A program without a copy does not count. -/
theorem append_unowned
    (accounts : Accounts folder start world live)
    (unowned : binary.copy = none) :
    Accounts folder start world (live ++ [binary]) := by
  have same : (live ++ [binary]).filterMap Binary.owned? = live.filterMap Binary.owned? := by
    simp [Binary.owned?, unowned]
  unfold Accounts at accounts ⊢
  rwa [same]

/-- A new copy comes last in the folder and belongs to the program that was made. -/
theorem append_copied
    (accounts : Accounts folder start world live)
    (copied : Copied folder world binary after) :
    Accounts folder start after (live ++ [binary]) := by
  obtain @⟨location, held, name, content, opened, fresh⟩ := copied
  unfold Accounts at accounts ⊢
  cases began : start.openFolder folder with
  | error fault => simp [began, opened] at accounts
  | ok begun =>
    obtain ⟨place, entries⟩ := begun
    rw [began] at accounts
    obtain ⟨copies, holds, distinct, new, owned⟩ := accounts
    obtain ⟨rfl, rfl⟩ : location = place ∧ held = entries ++ copies.map copyEntry := by
      simpa [opened] using holds
    rw [List.map_append, map_fst_copyEntry, List.mem_append, not_or] at fresh
    refine ⟨copies ++ [(name, content)], ?_, ?_, ?_, ?_⟩
    · rw [World.openFolder_append opened]
      simp [copyEntry]
    · rw [List.map_append, List.nodup_append]
      exact ⟨distinct, by simp, by grind⟩
    · grind
    · simp [owned, Binary.owned?]

/-- A copy that is taken away is no entry any more, and its program is no longer
live. -/
theorem release
    {front back : List Binary}
    (accounts : Accounts folder start world (front ++ binary :: back)) :
    Accounts folder start (world.release binary) (front ++ back) := by
  unfold Accounts at accounts ⊢
  rw [List.filterMap_append, List.filterMap_cons] at *
  cases copy : binary.copy with
  | none =>
    rw [World.release, copy]
    simpa [Binary.owned?, copy] using accounts
  | some owned =>
    rw [World.release, copy]
    rw [show binary.owned? = some (binary.path, owned) by simp [Binary.owned?, copy]] at accounts
    cases began : start.openFolder folder with
    | error fault => simp [began] at accounts
    | ok begun =>
      obtain ⟨location, entries⟩ := begun
      rw [began] at accounts
      obtain ⟨copies, holds, distinct, new, owners⟩ := accounts
      -- The copy of the program stands among the copies where the program stands
      -- among the live ones.
      obtain ⟨first, rest, rfl, frontOwned, restOwned⟩ := List.append_eq_map_iff.mp owners
      obtain ⟨⟨name, content⟩, last, rfl, here, backOwned⟩ := List.map_eq_cons_iff.mp restOwned
      obtain ⟨-, rfl⟩ : joinPath folder name = binary.path ∧ location ++ [name] = owned := by
        simpa using here
      have without :
          (entries ++ (first ++ (name, content) :: last).map copyEntry).filter (·.1 ≠ name)
            = entries ++ (first ++ last).map copyEntry := by
        rw [List.map_append, List.map_cons, List.nodup_append, List.nodup_cons] at distinct
        have notFirst : name ∉ (first.map copyEntry).map Prod.fst := by
          rw [map_fst_copyEntry]
          exact fun member => distinct.2.2 name member name (by simp) rfl
        have notLast : name ∉ (last.map copyEntry).map Prod.fst := by
          rw [map_fst_copyEntry]
          exact distinct.2.1.1
        rw [List.map_append, List.map_cons, List.filter_append, List.filter_append,
          Dictionary.filter_ne_of_not_mem (new name (by simp)),
          Dictionary.filter_ne_of_not_mem notFirst,
          List.filter_cons_of_neg (by simp [copyEntry]),
          Dictionary.filter_ne_of_not_mem notLast, List.map_append]
      refine ⟨first ++ last, ?_, ?_, ?_, ?_⟩
      · have fresh := new name (by simp)
        rw [World.openFolder_erase holds fun inner =>
          Node.file_of_lookup_append fresh file_of_mem_copies, without]
      · rw [List.map_append] at distinct ⊢
        exact distinct.sublist (.append (.refl _) (by simp))
      · exact fun other member => new other (by simp at member ⊢; tauto)
      · rw [← frontOwned, ← backOwned, List.map_append]

/-- A copy of a live program is a file of the folder that was new to it. -/
theorem copy_of_mem
    {owned : List String}
    (accounts : Accounts folder start world live)
    (member : binary ∈ live)
    (copy : binary.copy = some owned) :
    ∃ location before entries name,
      start.openFolder folder = .ok (location, before)
        ∧ world.openFolder folder = .ok (location, entries)
        ∧ name ∉ before.map Prod.fst
        ∧ owned = location ++ [name]
        ∧ ∀ inner, entries.lookup name = some inner →
          ∃ content mode, inner = .file content mode := by
  have counted : (binary.path, owned) ∈ live.filterMap Binary.owned? :=
    List.mem_filterMap.mpr ⟨binary, member, by simp [Binary.owned?, copy]⟩
  unfold Accounts at accounts
  split at accounts
  case h_1 => simp [accounts.2] at counted
  case h_2 location before began =>
    obtain ⟨copies, holds, -, new, owners⟩ := accounts
    rw [owners, List.mem_map] at counted
    obtain ⟨⟨name, content⟩, among, same⟩ := counted
    have fresh := new name (List.mem_map_of_mem among)
    exact ⟨location, before, _, name, began, holds, fresh, (Prod.mk.inj same).2.symm,
      fun inner => Node.file_of_lookup_append fresh file_of_mem_copies⟩

/-- The folder stays where it was. -/
theorem beside
    (accounts : Accounts folder start world live)
    (beside : start.Beside folder place) :
    world.Beside folder place := by
  intro location entries opened
  unfold Accounts at accounts
  split at accounts
  case h_1 => simp [accounts.1] at opened
  case h_2 found before began =>
    obtain ⟨copies, holds, -⟩ := accounts
    obtain ⟨rfl, -⟩ : location = found ∧ entries = before ++ copies.map copyEntry := by
      simpa [holds, eq_comm] using opened
    exact beside location before began

end Accounts

/-! ## Paths that lead beside the folder -/

/-- A new copy leaves what other paths lead to. -/
theorem World.Leads.copied
    (leads : world.Leads path place node)
    (copied : Copied folder world binary after)
    (beside : world.Beside folder place) :
    after.Leads path place node := by
  obtain @⟨location, entries, name, content, opened, fresh⟩ := copied
  exact leads.setEntries opened (beside _ _ opened) .append

/-! ## Passes -/

section Passes

variable {bundle : Bundle} {course : CopyCourse} {pass : Pass} {σ η : Type} {host : Host σ η}
  {state : σ} {run : Invocation → World → Option (Except ProcessError Captured × World)}
  (ended : (pass.execute (bundle.stagesAlong course run) host state world).outcome ≠ none)

include ended

/-- A pass leaves the files as they were, or as its run left them once the program
is released. -/
theorem execute_cases :
    let after := (pass.execute (bundle.stagesAlong course run) host state world).surroundings
    after = world
      ∨ ∃ binary extracted captured used,
        bundle.extractAlong course pass.osName world = (.ok binary, extracted)
          ∧ run (pass.invocation binary) extracted = some (captured, used)
          ∧ after = used.release binary := by
  intro after
  have leaves : pass.left? (bundle.stagesAlong course run) world = some after :=
    Pass.left?_of_ended ended
  simp only [Pass.left?, Bundle.stagesAlong] at leaves
  cases made : bundle.extractAlong course pass.osName world with
  | mk outcome extracted =>
    cases outcome with
    | error failure =>
      rw [made] at leaves
      exact .inl ((Option.some.inj leaves).symm.trans (Bundle.world_of_extractAlong_error made))
    | ok binary =>
      rw [made] at leaves
      obtain ⟨⟨captured, used⟩, ran, left⟩ := Option.map_eq_some_iff.mp leaves
      exact .inr ⟨binary, extracted, captured, used, rfl, ran, left.symm⟩

/-- After a pass the folder is what it was before, however the pass ended. -/
theorem openFolder_execute (quiet : bundle.Quiet course run bundles pass world) :
    (pass.execute (bundle.stagesAlong course run) host state world).surroundings.openFolder
        (world.absolute bundle.temporaryFolder)
      = world.openFolder (world.absolute bundle.temporaryFolder) := by
  obtain same | ⟨binary, extracted, captured, used, made, ran, released⟩ := execute_cases ended
  · rw [same]
  rw [released]
  have untouched := quiet binary extracted made captured used ran
  obtain ⟨rfl, unowned, -⟩ | ⟨copied, -⟩ := Bundle.extractAlong_eq_ok made
  · rw [World.release, unowned]
    exact untouched.openFolder
  · obtain @⟨location, entries, name, content, opened, fresh⟩ := copied
    have holds := untouched.openFolder.trans (World.openFolder_append opened)
    rw [opened]
    exact World.openFolder_erase_fresh holds fresh

/-- A pass leaves what a bundle's path leads to. -/
theorem leads_execute
    (quiet : bundle.Quiet course run bundles pass world)
    (known : path ∈ bundles)
    (beside : world.Beside (world.absolute bundle.temporaryFolder) place)
    (leads : world.Leads path place node) :
    (pass.execute (bundle.stagesAlong course run) host state world).surroundings.Leads
      path place node := by
  obtain same | ⟨binary, extracted, captured, used, made, ran, released⟩ := execute_cases ended
  · rwa [same]
  rw [released]
  have untouched := quiet binary extracted made captured used ran
  obtain ⟨rfl, unowned, -⟩ | ⟨copied, -⟩ := Bundle.extractAlong_eq_ok made
  · rw [World.release, unowned]
    exact untouched.leads path known place node leads
  · have during := untouched.leads path known place node (leads.copied copied beside)
    obtain @⟨location, entries, name, content, opened, fresh⟩ := copied
    have holds := untouched.openFolder.trans (World.openFolder_append opened)
    have apart := leads.ne_of_fresh (World.openFolder_eq_ok_iff.mp opened).2 fresh
    exact during.erase holds (beside _ _ opened) apart fun inner =>
      Node.file_of_lookup_append fresh Node.file_of_mem_singleton

end Passes

/-! ## Anything that is done -/

namespace Extracting.Reachable

/-- At any time the folder holds its first entries and one new file for each live
program that owns a copy. -/
theorem accounts (reached : Extracting.Reachable folder bundles start world live) :
    Accounts folder start world live := by
  induction reached with
  | start => exact .begin
  | extracted before inFolder made accounts =>
    obtain ⟨rfl, unowned, -⟩ | ⟨copied, -⟩ := Bundle.extractAlong_eq_ok made
    · exact accounts.append_unowned unowned
    · exact accounts.append_copied (inFolder ▸ copied)
  | failed before inFolder made accounts =>
    obtain rfl := Bundle.world_of_extractAlong_error made
    exact accounts
  | released before accounts => exact accounts.release
  | passed before inFolder quiet ended accounts =>
    exact accounts.of_openFolder_eq (inFolder ▸ openFolder_execute ended quiet)

/-- What a path of a bundle led to beside the folder is there at any time. -/
theorem leads
    (reached : Extracting.Reachable folder bundles start world live)
    (known : path ∈ bundles)
    (beside : start.Beside folder place)
    (leads : start.Leads path place node) :
    world.Leads path place node := by
  induction reached with
  | start => exact leads
  | extracted before inFolder made inductionHypothesis =>
    obtain ⟨rfl, -⟩ | ⟨copied, -⟩ := Bundle.extractAlong_eq_ok made
    · exact inductionHypothesis
    · exact inductionHypothesis.copied (inFolder ▸ copied) (before.accounts.beside beside)
  | failed before inFolder made inductionHypothesis =>
    obtain rfl := Bundle.world_of_extractAlong_error made
    exact inductionHypothesis
  | @released world front back binary before inductionHypothesis =>
    rw [World.release]
    cases copy : binary.copy with
    | none => exact inductionHypothesis
    | some owned =>
      -- The copy was new to the folder, so the path does not lead to it.
      obtain ⟨location, earlier, entries, name, began, holds, fresh, rfl, isFile⟩ :=
        before.accounts.copy_of_mem (by simp) copy
      have apart := leads.ne_of_fresh (World.openFolder_eq_ok_iff.mp began).2 fresh
      exact inductionHypothesis.erase holds (beside _ _ began) apart isFile
  | passed before inFolder quiet ended inductionHypothesis =>
    subst inFolder
    exact leads_execute ended quiet known (before.accounts.beside beside) inductionHypothesis

/-- No copy outlives its program.  Whatever was done, the folder holds its first
entries and one new file for each live program that owns a copy, and a pass leaves
it as it was, however the pass ends.  What the path of a bundle led to is still
there: an archive always, and a folder that the folder for copies is not in.  An
extraction that fails changes nothing, and neither does one from a folder, whose
program takes nothing away when it is released; any other program owns a copy. -/
theorem no_copy_outlives (reached : Extracting.Reachable folder bundles start world live) :
    Accounts folder start world live
      ∧ (∀ (bundle : Bundle) (course : CopyCourse) (pass : Pass)
          (run : Invocation → World → Option (Except ProcessError Captured × World))
          (σ η : Type) (host : Host σ η) (state : σ),
          world.absolute bundle.temporaryFolder = folder →
            bundle.Quiet course run bundles pass world →
              let ran := pass.execute (bundle.stagesAlong course run) host state world
              ran.outcome ≠ none →
                ran.surroundings.openFolder folder = world.openFolder folder)
      ∧ (∀ path ∈ bundles, ∀ place node, start.Leads path place node →
          (∀ entries, node = .folder entries → start.Beside folder place) →
            world.Leads path place node)
      ∧ (∀ (bundle : Bundle) course osName failure after,
          bundle.extractAlong course osName world = (.error failure, after) → after = world)
      ∧ ∀ (bundle : Bundle) course osName binary after,
          bundle.extractAlong course osName world = (.ok binary, after) →
            ((∃ entries, world.find bundle.path = .ok (.folder entries)) →
              after = world ∧ ∀ later : World, later.release binary = later)
            ∧ ((∀ entries, world.find bundle.path ≠ .ok (.folder entries)) →
              binary.owned?.isSome) := by
  refine ⟨reached.accounts, ?passes, ?bundles, ?failures, ?programs⟩
  case passes =>
    intro bundle course pass run σ η host state inFolder quiet ran ended
    subst inFolder
    exact openFolder_execute ended quiet
  case bundles =>
    intro path known place node leads beside
    refine reached.leads known ?_ leads
    by_cases isFolder : ∃ entries, node = .folder entries
    · obtain ⟨entries, isFolder⟩ := isFolder
      exact beside entries isFolder
    · exact leads.beside_of_not_folder fun entries isOne => isFolder ⟨entries, isOne⟩
  case failures =>
    intro bundle course osName failure after failed
    exact Bundle.world_of_extractAlong_error failed
  case programs =>
    intro bundle course osName binary after made
    obtain ⟨rfl, unowned, entries, isFolder⟩ | ⟨copied, noFolder⟩ := Bundle.extractAlong_eq_ok made
    · refine ⟨fun _ => ⟨rfl, fun later => ?_⟩, fun noFolder => absurd isFolder (noFolder entries)⟩
      rw [World.release, unowned]
    · refine ⟨fun ⟨entries, isFolder⟩ => absurd isFolder (noFolder entries), fun _ => ?_⟩
      obtain ⟨opened, fresh⟩ := copied
      rfl

end Extracting.Reachable

/-! ## A program of an archive -/

/-- An archive whose only entry has the name of one letter and no data. -/
def oneEntryArchive : List UInt8 :=
  [80, 75, 3, 4] ++ List.replicate 22 0 ++ [1, 0, 0, 0, 97]
    ++ [80, 75, 1, 2] ++ List.replicate 24 0 ++ [1, 0] ++ List.replicate 16 0 ++ [97]
    ++ [80, 75, 5, 6, 0, 0, 0, 0, 1, 0, 1, 0, 47, 0, 0, 0, 31, 0, 0, 0, 0, 0]

/-- Files with an archive, and a folder for copies that is not empty. -/
def archiveWorld (archive : List UInt8) : World where
  root := .folder [
    ("b", .file archive .readable),
    ("tmp", .folder [("a-000000", .file [] .readable)])]
  current := []
  programFolder := "/"
  temporaryFolder := "/tmp"

def archiveBundle : Bundle :=
  ⟨"/b", .ofList [("Linux", "a")], "/tmp"⟩

theorem find_archiveWorld {archive : List UInt8} :
    (archiveWorld archive).find "/b" = .ok (.file archive .readable) := by
  cbv

theorem openFolder_archiveWorld {archive : List UInt8} :
    (archiveWorld archive).openFolder "/tmp"
      = .ok (["tmp"], [("a-000000", .file [] .readable)]) := by
  have joined : joinPath "/tmp" "." = "/tmp/." := by decide +kernel
  have steps : pathSteps "/tmp/." = ["tmp", "."] := by decide +kernel
  have absolute : isAbsolute "/tmp/." = true := by decide
  have short : "/tmp/.".utf8ByteSize = 6 := by decide
  rw [World.openFolder_eq_ok_iff, joined]
  refine ⟨?_, rfl⟩
  simp [World.resolve, absolute, steps, short, World.maxPathSize, World.walk, archiveWorld,
    Node.at?, Node.entries, List.lookup]

theorem create_archiveWorld {archive content : List UInt8} {mode : Mode} :
    (archiveWorld archive).create "/tmp" "a-000001" content mode
      = .ok ((archiveWorld archive).put ["tmp", "a-000001"] (.file content mode),
          ["tmp", "a-000001"]) := by
  have joined : joinPath "/tmp" "a-000001" = "/tmp/a-000001" := by decide +kernel
  rw [World.create, openFolder_archiveWorld, joined]
  rfl

/-- What the archive has for its entry. -/
theorem packedEntry_archiveWorld :
    packedEntry (archiveWorld oneEntryArchive) "/b" "a"
      = .ok (⟨"a", false, 0, 0, 0, 0⟩, .stored, ⟨#[]⟩) := by
  have entries : Zip.lastDirectory? ⟨oneEntryArchive.toArray⟩ 79
      = some [⟨"a", false, 0, 0, 0, 0⟩] := by
    decide +kernel
  have opened : Zip.Archive.ofOctets? oneEntryArchive
      = some ⟨⟨oneEntryArchive.toArray⟩, [⟨"a", false, 0, 0, 0, 0⟩]⟩ := by
    rw [Zip.Archive.ofOctets?,
      show (ByteArray.mk oneEntryArchive.toArray).size - 21 = 79 from rfl, entries]
    rfl
  have data : (Zip.Archive.mk ⟨oneEntryArchive.toArray⟩ [⟨"a", false, 0, 0, 0, 0⟩]).packed
      ⟨"a", false, 0, 0, 0, 0⟩ = .ok (.stored, ⟨#[]⟩) := by
    decide +kernel
  have read : (archiveWorld oneEntryArchive).read "/b" = .ok oneEntryArchive := by
    rw [World.read, find_archiveWorld]
    rfl
  simp only [packedEntry, read, opened, Except.mapError, bind, Except.bind]
  simp only [Zip.Archive.entry?, List.reverse_singleton, List.find?_singleton, decide_true,
    if_true, data]
  rfl

theorem extractAlong_archiveWorld :
    archiveBundle.extractAlong .smooth "Linux" (archiveWorld oneEntryArchive)
      = (.ok ⟨"/tmp/a-000001", some ["tmp", "a-000001"]⟩,
          (archiveWorld oneEntryArchive).put ["tmp", "a-000001"] (.file [] .program)) := by
  have resolved : archiveBundle.analyzers.resolve "Linux" = .ok "a" := by cbv
  have unpacked : Zip.Archive.unpack? ⟨"a", false, 0, 0, 0, 0⟩ .stored ⟨#[]⟩ = some [] := by
    decide +kernel
  have fresh : freshCopyName "a" ((archiveWorld oneEntryArchive).names "/tmp") = "a-000001" := by
    rw [World.names, openFolder_archiveWorld]
    decide +kernel
  have joined : joinPath "/tmp" "a-000001" = "/tmp/a-000001" := by decide +kernel
  have absolute : (archiveWorld oneEntryArchive).absolute "/tmp" = "/tmp" :=
    World.absolute_eq_self (by decide)
  unfold Bundle.extractAlong
  rw [resolved, show archiveBundle.path = "/b" from rfl,
    show archiveBundle.temporaryFolder = "/tmp" from rfl]
  simp only [CopyCourse.smooth_breaks, find_archiveWorld, packedEntry_archiveWorld,
    CopyCourse.makeCopy_smooth, unpacked, absolute, fresh, joined, create_archiveWorld]
  rfl

/-- A program of the archive is live, and the folder has one file more; a pass with
another program leaves it so, and the archive is as it was. -/
theorem Extracting.Reachable.no_copy_outlives_oneEntry :
    let start := archiveWorld oneEntryArchive
    let after := start.put ["tmp", "a-000001"] (.file [] .program)
    let binary : Binary := ⟨"/tmp/a-000001", some ["tmp", "a-000001"]⟩
    let run : Invocation → World → Option (Except ProcessError Captured × World) :=
      fun _ world => some (.ok ⟨"[]", "", some 0⟩, world)
    let pass : Pass := ⟨"Linux", "go", "/project"⟩
    Extracting.Reachable "/tmp" ["/b"] start after [binary]
      ∧ archiveBundle.Quiet .smooth run ["/b"] pass after
      ∧ Accounts "/tmp" start after [binary]
      ∧ (pass.execute (archiveBundle.stagesAlong .smooth run) RecordingHost.host
            (.ofLanguage "go") after).surroundings.openFolder "/tmp"
          = after.openFolder "/tmp"
      ∧ after.Leads "/b" ["b"] (.file oneEntryArchive .readable) := by
  intro start after binary run pass
  have reached : Extracting.Reachable "/tmp" ["/b"] start after ([] ++ [binary]) :=
    .extracted .start rfl extractAlong_archiveWorld
  have quiet : archiveBundle.Quiet .smooth run ["/b"] pass after := by
    intro _ extracted _ captured used ran
    obtain rfl : extracted = used := (Prod.mk.inj (Option.some.inj ran)).2
    exact ⟨rfl, fun _ _ _ _ leads => leads⟩
  have ended : (pass.execute (archiveBundle.stagesAlong .smooth run) RecordingHost.host
      (.ofLanguage "go") after).outcome ≠ none :=
    Pass.outcome_ne_none fun _ _ => Option.some_ne_none _
  have archive : start.Leads "/b" ["b"] (.file oneEntryArchive .readable) := by
    refine ⟨?_, rfl⟩
    have steps : pathSteps "/b" = ["b"] := by decide
    have absolute : isAbsolute "/b" = true := by decide
    have short : "/b".utf8ByteSize = 2 := by decide
    simp [World.resolve, absolute, steps, short, World.maxPathSize, World.walk, start,
      archiveWorld, Node.at?, Node.entries]
  obtain ⟨accounts, passes, bundles, -⟩ := Extracting.Reachable.no_copy_outlives reached
  exact ⟨reached, quiet, accounts,
    passes archiveBundle .smooth pass run _ _ RecordingHost.host (.ofLanguage "go") rfl quiet ended,
    bundles "/b" (by simp) ["b"] _ archive (by simp)⟩

end Findings
