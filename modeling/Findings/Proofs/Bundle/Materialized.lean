import Mathlib
import Findings.Proofs.Bundle.Interchange
import Findings.Proofs.Files.Name
import Findings.Proofs.Files.Parent

/-!
Contract: the program of an archive as the one file that its extraction makes.

Owns:
- `NamesCopy`, how a copy of a program is called, whatever path the program has;
- `World.Gains`, the files with a single one more;
- `Materialized`, what an extraction from an archive comes to;
- the law that nothing else comes of one, and that an archive without the program
  says so.

A path may climb, start at the top or have no name at all: the copy is called by its
last name only, and lies in the folder for copies.

Does not own: how data are unpacked, and what becomes of the copy.
-/

namespace Findings

variable {world after : World} {folder path name tag osName : String} {content : List UInt8}
  {place location : List String} {entries : List (String × Node)}

/-! ## Names of copies -/

/-- What makes the name of a copy new: letters and digits, at least six. -/
structure IsTag (tag : String) : Prop where
  long : 6 ≤ tag.toList.length
  plain : ∀ c ∈ tag.toList, c.isAlphanum

/-- How a copy of the program at a path is called: by the stem of the program, a hyphen
and a tag, and by the extension of the program if it has one. -/
inductive NamesCopy (path tag : String) : String → Prop where
  | nameless
      (nameless : fileName? path = none) :
      NamesCopy path tag ("analyzer" ++ "-" ++ tag)
  | extended
      {whole : String}
      {stem extension : List Char}
      (named : fileName? path = some whole)
      (parts : Extends stem extension whole.toList) :
      NamesCopy path tag (String.ofList stem ++ "-" ++ tag ++ "." ++ String.ofList extension)
  /-- No dot stands behind the first character of the name. -/
  | plain
      {whole : String}
      (named : fileName? path = some whole)
      (noDot : '.' ∉ whole.toList.tail) :
      NamesCopy path tag (whole ++ "-" ++ tag)

theorem IsTag.not_mem {c : Char} (isTag : IsTag tag) (other : c.isAlphanum = false) :
    c ∉ tag.toList :=
  fun member => by simp [isTag.plain c member] at other

theorem isTag_copyTag (n : Nat) : IsTag (copyTag n) := by
  constructor
  · rw [copyTag, String.toList_ofList, List.length_append, List.length_replicate]
    omega
  · intro c member
    rw [copyTag, String.toList_ofList, List.mem_append] at member
    rcases member with zero | digit
    · rw [List.eq_of_mem_replicate zero]
      rfl
    · have isDigit := Nat.isDigit_of_mem_toDigits (by decide) (by decide) digit
      simp [Char.isAlphanum, isDigit]

/-- The name of a copy is made of a tag and of the last name of the path, whatever the
path is. -/
theorem namesCopy_copyName : NamesCopy path tag (copyName path tag) := by
  cases named : fileName? path with
  | none =>
    have same : copyName path tag = "analyzer" ++ "-" ++ tag := by
      simp [copyName, fileStem?, extension?_eq, named]
    rw [same]
    exact .nameless named
  | some whole =>
    obtain ⟨stem, extension, parts, split⟩ | ⟨noDot, split⟩ := splitName_cases whole.toList
    · have same : copyName path tag
          = String.ofList stem ++ "-" ++ tag ++ "." ++ String.ofList extension := by
        simp [copyName, fileStem?, extension?_eq, named, split, String.append_assoc]
      rw [same]
      exact .extended named parts
    · have same : copyName path tag = whole ++ "-" ++ tag := by
        simp [copyName, fileStem?, extension?_eq, named, split]
      rw [same]
      exact .plain named noDot

/-- A copy has the extension of the program, or has none either. -/
theorem NamesCopy.extension?_eq (names : NamesCopy path tag name) (isTag : IsTag tag) :
    (splitName name.toList).2.map String.ofList = extension? path := by
  have noDot : '.' ∉ tag.toList := isTag.not_mem rfl
  rw [Findings.extension?_eq]
  cases names with
  | nameless named =>
    rw [named, splitName_of_not_mem (by simp [noDot])]
    rfl
  | @extended whole stem extension named parts =>
    have longer : Extends (stem ++ '-' :: tag.toList) extension
        (String.ofList stem ++ "-" ++ tag ++ "." ++ String.ofList extension).toList :=
      ⟨by simp, parts.plain, by simp⟩
    rw [named, Option.bind_some, parts.splitName_eq, longer.splitName_eq]
  | @plain whole named noDotIn =>
    have unsplit : splitName whole.toList = (whole.toList, none) := splitName_of_not_mem_tail noDotIn
    have noDotBehind : '.' ∉ (whole ++ "-" ++ tag).toList.tail := by
      cases chars : whole.toList with
      | nil => simp [chars, noDot]
      | cons first more =>
        rw [chars, List.tail_cons] at noDotIn
        simp [chars, noDot, noDotIn]
    rw [named, Option.bind_some, unsplit, splitName_of_not_mem_tail noDotBehind]

/-! ## One more file -/

/-- The files with one more, where nothing was: everything else is as it was, but that
the folder of the file has it. -/
structure World.Gains (world after : World) (place : List String) (content : List UInt8) :
    Prop where
  nothing : world.root.at? place = none
  others : ∀ other node, (∀ entries, node ≠ .folder entries) →
    (after.root.at? other = some node
      ↔ world.root.at? other = some node ∨ other = place ∧ node = .file content .program)
  folders : ∀ other, (∃ entries, after.root.at? other = some (.folder entries))
    ↔ ∃ entries, world.root.at? other = some (.folder entries)
  surroundings : after = { world with root := after.root }

namespace World

section Fresh

variable (held : world.root.at? location = some (.folder entries))
  (fresh : name ∉ entries.map Prod.fst)
include held fresh

/-- A place is above the folder, or below the new entry, or neither; then nothing
changes there. -/
theorem at?_setEntries_append (node : Node) (other : List String) :
    let after := world.setEntries location (entries ++ [(name, node)])
    (∃ before later, world.root.at? other = some (.folder before)
        ∧ after.root.at? other = some (.folder later))
      ∨ (∃ more, other = location ++ name :: more ∧ world.root.at? other = none
        ∧ after.root.at? other = node.at? more)
      ∨ other ≠ location ++ [name] ∧ after.root.at? other = world.root.at? other := by
  intro after
  have now : after.root.at? location = some (.folder (entries ++ [(name, node)])) :=
    at?_setEntries held
  by_cases above : other <+: location
  · obtain ⟨before, there⟩ := Node.folder_of_prefix held above
    obtain ⟨later, thereNow⟩ := Node.folder_of_prefix now above
    exact .inl ⟨before, later, there, thereNow⟩
  by_cases below : location <+: other
  · obtain ⟨more, rfl⟩ := below
    obtain ⟨first, more, rfl⟩ : ∃ first rest, more = first :: rest :=
      List.exists_cons_of_ne_nil (by rintro rfl; simp at above)
    simp only [Node.at?_append, held, now, Option.bind_some, Node.at?, Node.entries,
      List.lookup_append]
    by_cases same : first = name
    · subst same
      refine .inr (.inl ⟨more, rfl, ?_, ?_⟩)
      · simp [Dictionary.lookup_eq_none_of_not_mem fresh]
      · simp [Dictionary.lookup_eq_none_of_not_mem fresh]
    · refine .inr (.inr ⟨by simp [same], ?_⟩)
      simp [List.lookup_cons, beq_false_of_ne same]
  · refine .inr (.inr ⟨?_, Node.at?_put_of_apart held below above⟩)
    rintro rfl
    exact below (List.prefix_append _ _)

/-- A new entry of a folder is one more file and changes no other. -/
theorem gains_setEntries_append :
    world.Gains (world.setEntries location (entries ++ [(name, .file content .program)]))
      (location ++ [name]) content := by
  have empty : world.root.at? (location ++ [name]) = none := by
    rw [Node.at?_append, held, Option.bind_some]
    simp [Node.at?, Node.entries, Dictionary.lookup_eq_none_of_not_mem fresh]
  have cases := at?_setEntries_append held fresh (.file content .program)
  refine ⟨empty, fun other node noFolder => ?others, fun other => ?folders, rfl⟩
  case others =>
    obtain ⟨before, later, there, now⟩ | ⟨more, rfl, nothing, now⟩ | ⟨apart, now⟩ := cases other
    · have isNew : other ≠ location ++ [name] := by
        rintro rfl
        rw [empty] at there
        cases there
      simp [there, now, (noFolder _).symm, isNew]
    · rw [now, nothing]
      cases more with
      | nil => simp [Node.at?, eq_comm]
      | cons first more => simp [Node.at?_file_cons]
    · simp [now, apart]
  case folders =>
    obtain ⟨before, later, there, now⟩ | ⟨more, rfl, nothing, now⟩ | ⟨-, now⟩ := cases other
    · simp [there, now]
    · rw [now, nothing]
      cases more with
      | nil => simp [Node.at?]
      | cons first more => simp [Node.at?_file_cons]
    · simp [now]

end Fresh

end World

/-! ## What an extraction comes to -/

/-- A program that owns the only new file: an entry of a folder for copies, with the
content and the extension of the program that it is a copy of, that everybody may read
and run.  It runs in that folder, and nothing is left of it once it is released. -/
structure Materialized
    (folder path : String)
    (content : List UInt8)
    (world : World)
    (location : List String)
    (name : String)
    (binary : Binary)
    (after : World) :
    Prop where
  opened : ∃ entries, world.openFolder folder = .ok (location, entries)
  named : ∃ tag, IsTag tag ∧ NamesCopy path tag name
  isName : IsName name
  path_eq : binary.path = joinPath folder name
  isAbsolute : isAbsolute binary.path = true
  gains : world.Gains after (location ++ [name]) content
  leads : after.Leads binary.path (location ++ [name]) (.file content 0o755)
  extension?_eq : extension? binary.path = extension? path
  working : ∃ entries, after.openFolder binary.workingFolder = .ok (location, entries)
  owned : binary.copy = some (location ++ [name])
  released : after.release binary = world

/-- On the course copies are called by a tag. -/
def CopyCourse.Tagged (course : CopyCourse) : Prop :=
  ∀ path taken, ∃ tag, IsTag tag ∧ course.choose path taken = copyName path tag

theorem CopyCourse.tagged_smooth : smooth.Tagged := by
  intro path taken
  obtain ⟨n, same⟩ := freshCopyName_eq path taken
  exact ⟨copyTag n, isTag_copyTag n, same⟩

/-- A file that is put into the folder for copies under a new name is what an extraction
comes to. -/
theorem materialized
    (absolute : isAbsolute folder = true)
    (opened : world.openFolder folder = .ok (location, entries))
    (fresh : name ∉ entries.map Prod.fst)
    (isTag : IsTag tag)
    (named : NamesCopy path tag name)
    (isName : IsName name)
    (short : (joinPath folder name).utf8ByteSize ≤ World.maxPathSize) :
    Materialized folder path content world location name
      ⟨joinPath folder name, some (location ++ [name])⟩
      (world.setEntries location (entries ++ [(name, .file content .program)])) := by
  have held := (World.openFolder_eq_ok_iff.mp opened).2
  have called : fileName? (belowPath folder [name]) = [name].getLast? :=
    fileName?_belowPath (by simp) (by simpa using isName)
  change fileName? (joinPath folder name) = some name at called
  exact {
    opened := ⟨entries, opened⟩
    named := ⟨tag, isTag, named⟩
    isName := isName
    path_eq := rfl
    isAbsolute := (isAbsolute_joinPath isName.isAbsolute_eq_false).trans absolute
    gains := World.gains_setEntries_append held fresh
    leads := World.leads_setEntries_append opened fresh isName short
    extension?_eq := by rw [extension?_eq, called, Option.bind_some, named.extension?_eq isTag]
    working := ⟨_, World.openFolder_parentPath (World.openFolder_append opened) isName⟩
    owned := rfl
    released := World.erase_fresh held _ fresh }

namespace CopyCourse

variable {course : CopyCourse} {packed : Option (List UInt8)} {binary : Binary}

/-- Whatever step may break off, a copy that is made is made as a whole. -/
theorem Tagged.materialized_of_makeCopy
    (tagged : course.Tagged)
    (absolute : isAbsolute folder = true)
    (made : course.makeCopy folder path packed world = (.ok binary, after)) :
    ∃ content location name, packed = some content
      ∧ Materialized folder path content world location name binary after := by
  obtain ⟨failure, failed⟩ | ⟨location, entries, content, given, opened, fresh, ⟨_, created⟩, same⟩ :=
    @makeCopy_eq world path course folder packed
  · simp [failed] at made
  · obtain ⟨rfl, rfl⟩ : _ = binary ∧ _ = after := by simpa [same] using made
    obtain ⟨tag, isTag, chosen⟩ := tagged path (world.names folder)
    rw [chosen] at fresh created ⊢
    have isName : IsName (copyName path tag) :=
      isName_copyName (isTag.not_mem rfl) (World.noZero_of_create created)
    exact ⟨content, location, _, given,
      materialized absolute opened fresh isTag namesCopy_copyName isName
        (World.short_of_create created)⟩

/-- Where a file can be made and no step breaks off, a copy is made. -/
theorem makeCopy_of_unbroken
    {made : World × List String}
    (unbroken : ∀ step, course.breaks step = none)
    (created : world.create folder (course.choose path (world.names folder)) [] .ownerOnly
      = .ok made) :
    ∃ binary after, course.makeCopy folder path (some content) world = (.ok binary, after) := by
  simp [makeCopy, fill, unbroken, created]

end CopyCourse

namespace Bundle

variable {bundle : Bundle} {course : CopyCourse} {octets : List UInt8} {mode : Mode}
  {archive : Zip.Archive}

theorem extractAlong_of_file
    (leads : world.Leads bundle.path place (.file octets mode))
    (resolved : bundle.analyzers.resolve osName = .ok path)
    (reading : course.breaks .reading = none) :
    bundle.extractAlong course osName world
      = match packedEntry world bundle.path path with
        | .error error => (.error (.error error), world)
        | .ok (entry, method, data) =>
          course.makeCopy (world.absolute bundle.temporaryFolder) path
            (Zip.Archive.unpack? entry method data) world := by
  unfold extractAlong
  cases read : packedEntry world bundle.path path with
  | error error => simp only [resolved, reading, leads.find, read]
  | ok packed => simp only [resolved, reading, leads.find, read]

theorem reading_of_extractAlong
    {binary : Binary}
    (made : bundle.extractAlong course osName world = (.ok binary, after)) :
    course.breaks .reading = none := by
  unfold extractAlong at made
  split at made
  · cases made
  · cases made
  · assumption

/-- All that comes of an extraction from an archive.  If there is a program, then the
archive has an entry of just its name with sound data, and these are the content of a
single new file, which everybody may read and run, in the folder for copies as it is
from the top on.  If there is none, nothing has changed.  An archive without such an
entry says which one it was asked for; one that has it gives the program where a file
can be made.  The extraction that is run is the one on the smooth course. -/
theorem extract_materializes
    (leads : world.Leads bundle.path place (.file octets mode))
    (isArchive : Zip.Archive.ofOctets? octets = some archive)
    (resolved : bundle.analyzers.resolve osName = .ok path)
    (tagged : course.Tagged) :
    let folder := world.absolute bundle.temporaryFolder
    (∀ binary after, bundle.extractAlong course osName world = (.ok binary, after) →
      ∃ content location name, archive.Gives path content
        ∧ (∃ entry ∈ archive.entries, entry.name = path)
        ∧ Materialized folder path content world location name binary after)
      ∧ (∀ failure after, bundle.extractAlong course osName world = (.error failure, after) →
        after = world)
      ∧ (course.breaks .reading = none → (∀ entry ∈ archive.entries, entry.name ≠ path) →
        bundle.extractAlong course osName world
          = (.error (.error (.notFound path bundle.path)), world))
      ∧ (∀ content made, (∀ step, course.breaks step = none) → archive.Gives path content →
        world.create folder (course.choose path (world.names folder)) [] .ownerOnly = .ok made →
        ∃ binary after, bundle.extractAlong course osName world = (.ok binary, after))
      ∧ CopyCourse.smooth.Tagged
      ∧ bundle.extractAlong .smooth osName world = bundle.extractStage osName world := by
  intro folder
  have read := leads.read
  refine ⟨fun binary after made => ?program, fun failure after => world_of_extractAlong_error,
    fun reading missing => ?missing, fun content made unbroken gives created => ?possible,
    CopyCourse.tagged_smooth, extractAlong_smooth⟩
  case program =>
    rw [extractAlong_of_file leads resolved (reading_of_extractAlong made)] at made
    cases packed : packedEntry world bundle.path path with
    | error error => simp [packed] at made
    | ok found =>
      obtain ⟨entry, method, data⟩ := found
      rw [packed] at made
      obtain ⟨content, location, name, unpacked, materialized⟩ :=
        tagged.materialized_of_makeCopy World.isAbsolute_absolute made
      have gives := gives_of_packedEntry read isArchive packed unpacked
      exact ⟨content, location, name, gives, gives.entry, materialized⟩
  case missing =>
    have nothing : archive.entry? path = none := by
      rw [Zip.Archive.entry?, List.find?_eq_none]
      simpa using missing
    rw [extractAlong_of_file leads resolved reading, packedEntry_of_missing read isArchive nothing]
  case possible =>
    obtain ⟨entry, method, data, packed, unpacked⟩ := packedEntry_of_gives read isArchive gives
    rw [extractAlong_of_file leads resolved (unbroken _), packed]
    simp only [unpacked]
    exact CopyCourse.makeCopy_of_unbroken unbroken created

end Bundle

/-! ## A program whose path climbs -/

/-- An archive whose only entry is named by a path that climbs, not compressed. -/
def climbingArchive : List UInt8 :=
  [80, 75, 3, 4] ++ List.replicate 10 0 ++ [41, 187, 76, 13, 2, 0, 0, 0, 2, 0, 0, 0]
    ++ [6, 0, 0, 0, 46, 46, 47, 97, 46, 98, 91, 93]
    ++ [80, 75, 1, 2] ++ List.replicate 12 0 ++ [41, 187, 76, 13, 2, 0, 0, 0, 2, 0, 0, 0, 6, 0]
    ++ List.replicate 16 0 ++ [46, 46, 47, 97, 46, 98]
    ++ [80, 75, 5, 6, 0, 0, 0, 0, 1, 0, 1, 0, 52, 0, 0, 0, 38, 0, 0, 0, 0, 0]

/-- The archive and a folder for copies, which is given as it is seen from the top. -/
def climbingWorld : World where
  root := .folder [("t", .folder []), ("z", .file climbingArchive .readable)]
  current := []
  programFolder := "/"
  temporaryFolder := "t"

def climbingBundle : Bundle :=
  ⟨"/z", .ofList [("Linux", "../a.b")], climbingWorld.temporaryFolder⟩

theorem leads_climbingWorld : climbingWorld.Leads "/z" ["z"] (.file climbingArchive .readable) :=
  ⟨by cbv, rfl⟩

theorem openFolder_climbingWorld : climbingWorld.openFolder "/t" = .ok (["t"], []) := by
  cbv

theorem ofOctets?_climbingArchive :
    Zip.Archive.ofOctets? climbingArchive
      = some ⟨⟨climbingArchive.toArray⟩, [⟨"../a.b", false, 0, 0x0D4CBB29, 2, 0⟩]⟩ := by
  have directory : Zip.lastDirectory? ⟨climbingArchive.toArray⟩ 91
      = some [⟨"../a.b", false, 0, 0x0D4CBB29, 2, 0⟩] := by
    decide +kernel
  have size : (ByteArray.mk climbingArchive.toArray).size - 21 = 91 := by decide +kernel
  rw [Zip.Archive.ofOctets?, size, directory]
  rfl

/-- The copy stays in the folder for copies, is called by the last name of the path, and
has its extension. -/
theorem Bundle.extract_materializes_climbing :
    let archive : Zip.Archive :=
      ⟨⟨climbingArchive.toArray⟩, [⟨"../a.b", false, 0, 0x0D4CBB29, 2, 0⟩]⟩
    climbingWorld.Leads climbingBundle.path ["z"] (.file climbingArchive .readable)
      ∧ Zip.Archive.ofOctets? climbingArchive = some archive
      ∧ climbingBundle.analyzers.resolve "Linux" = .ok "../a.b"
      ∧ CopyCourse.smooth.Tagged
      ∧ archive.Gives "../a.b" [91, 93]
      ∧ ∃ binary after name,
        climbingBundle.extractAlong .smooth "Linux" climbingWorld = (.ok binary, after)
          ∧ Materialized "/t" "../a.b" [91, 93] climbingWorld ["t"] name binary after := by
  intro archive
  have resolved : climbingBundle.analyzers.resolve "Linux" = .ok "../a.b" := by cbv
  have gives : archive.Gives "../a.b" [91, 93] := by
    refine ⟨⟨"../a.b", false, 0, 0x0D4CBB29, 2, 0⟩, .stored, ⟨#[91, 93]⟩, ?_, ?_, ?_⟩
    · decide +kernel
    · decide +kernel
    · decide +kernel
  have absolute : climbingWorld.absolute climbingBundle.temporaryFolder = "/t" := by
    decide +kernel
  have fresh : CopyCourse.smooth.choose "../a.b" (climbingWorld.names "/t") = "a-000000.b" := by
    rw [World.names, openFolder_climbingWorld]
    decide +kernel
  have joined : joinPath "/t" "a-000000.b" = "/t/a-000000.b" := by decide +kernel
  have created : climbingWorld.create "/t" "a-000000.b" [] .ownerOnly
      = .ok (climbingWorld.put ["t", "a-000000.b"] (.file [] .ownerOnly), ["t", "a-000000.b"]) := by
    rw [World.create, openFolder_climbingWorld, joined]
    rfl
  obtain ⟨program, -, -, possible, tagged, -⟩ := Bundle.extract_materializes
    leads_climbingWorld ofOctets?_climbingArchive resolved CopyCourse.tagged_smooth
  rw [absolute] at program possible
  obtain ⟨binary, after, made⟩ := possible _ _ (fun _ => rfl) gives (fresh.symm ▸ created)
  obtain ⟨content, location, name, given, -, materialized⟩ := program binary after made
  obtain rfl : content = [91, 93] := given.unique gives
  obtain ⟨entries, opened⟩ := materialized.opened
  obtain ⟨rfl, -⟩ : ["t"] = location ∧ [] = entries := by
    simpa using openFolder_climbingWorld.symm.trans opened
  exact ⟨leads_climbingWorld, ofOctets?_climbingArchive, resolved, tagged, gives,
    binary, after, name, made, materialized⟩

end Findings
