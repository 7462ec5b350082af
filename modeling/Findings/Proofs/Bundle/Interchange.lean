import Mathlib
import Findings.Proofs.Bundle.Content

/-!
Contract: the same files in a folder bundle and in an archive.

Owns:
- `Layout`, files by their locations; when the files of a folder are those of a
  layout, and when an archive holds them;
- `Layout.fileNamed?`, the file that the steps of a path name;
- `Plain`, the paths that are spelled as an archive calls its files;
- `Bundle.reply`, what an extraction comes to: the content of the program, or why
  there is none;
- `Bundle.interchangeable`: for a plain path both bundles reply the same.

A folder finds a file in any spelling of its path.  An archive looks the spelling
up as it is, so it has nothing for one that is not plain; what it has for the name
of one of its folders is left open.
-/

namespace Findings

variable {world other : World} {osName path : String} {location place : List String}
  {content : List UInt8} {entries : List (String × Node)}

/-! ## Files at locations -/

abbrev Layout := List (List String × List UInt8)

namespace Layout

/-- The file that a path names by its steps.  A path that ends with a slash or with a
step to the same place asks for a folder. -/
def fileNamed? (layout : Layout) (path : String) : Option (List UInt8) :=
  if (pathSteps path).getLast? = some "." then none
  else layout.lookup (World.settled (pathSteps path))

/-- A location that files are below. -/
def HasFolder (layout : Layout) (location : List String) : Prop :=
  ∃ name more content, (location ++ name :: more, content) ∈ layout

/-- All locations are made of names. -/
def Named (layout : Layout) : Prop :=
  ∀ location content, (location, content) ∈ layout →
    location ≠ [] ∧ ∀ name ∈ location, IsName name

variable {layout : Layout}

theorem mem_of_fileNamed? (named : layout.fileNamed? path = some content) :
    (World.settled (pathSteps path), content) ∈ layout ∧ (pathSteps path).getLast? ≠ some "." := by
  unfold fileNamed? at named
  split at named
  · cases named
  · rename_i ends
    obtain ⟨before, after, rfl, -⟩ := List.lookup_eq_some_iff.mp named
    exact ⟨by simp, ends⟩

theorem fileNamed?_isSome (ends : (pathSteps path).getLast? ≠ some ".")
    (member : (World.settled (pathSteps path), content) ∈ layout) :
    (layout.fileNamed? path).isSome := by
  rw [fileNamed?, if_neg ends, List.lookup_isSome_iff]
  exact ⟨_, member, by simp⟩

end Layout

/-- The files of a tree are those of a layout, and no links lead out of it. -/
structure Node.Holds (tree : Node) (layout : Layout) : Prop where
  file : ∀ location content, (location, content) ∈ layout
    ↔ ∃ mode, tree.at? location = some (.file content mode)
  noLinks : ∀ location target, tree.at? location ≠ some (.link target)

namespace Node.Holds

variable {tree : Node} {layout : Layout} {name : String} {mode : Mode}

theorem file_alone : (Node.file content mode).Holds [([], content)] := by
  constructor
  · intro location other
    cases location with
    | nil => simp [Node.at?, eq_comm]
    | cons first more => simp [Node.at?_file_cons]
  · intro location target
    cases location with
    | nil => simp [Node.at?]
    | cons first more => simp [Node.at?_file_cons]

theorem within (holds : tree.Holds layout) :
    (Node.folder [(name, tree)]).Holds (layout.map fun file => (name :: file.1, file.2)) := by
  have below (first : String) (more : List String) :
      (Node.folder [(name, tree)]).at? (first :: more)
        = if first = name then tree.at? more else none := by
    by_cases same : first = name
    · simp [Node.at?, Node.entries, same]
    · simp [Node.at?, Node.entries, same, List.lookup_cons, beq_false_of_ne same]
  constructor
  · intro location content
    cases location with
    | nil => simp [Node.at?]
    | cons first more =>
      rw [below]
      by_cases same : first = name
      · subst same
        simpa using holds.file more content
      · simp [same, Ne.symm same]
  · intro location target
    cases location with
    | nil => simp [Node.at?]
    | cons first more =>
      rw [below]
      by_cases same : first = name
      · simpa [same] using holds.noLinks more target
      · simp [same]

end Node.Holds

/-! ## Files in archives -/

/-- What an archive calls the file at a location: its names between slashes. -/
def entryName (location : List String) : String :=
  String.ofList (slashed location)

namespace Zip.Archive

variable {archive : Zip.Archive} {layout : Layout}

/-- The sound data of the entry of a name. -/
def Gives (archive : Zip.Archive) (name : String) (content : List UInt8) : Prop :=
  ∃ entry method data, archive.entry? name = some entry
    ∧ archive.packed entry = .ok (method, data) ∧ unpack? entry method data = some content

theorem Gives.entry {name : String} (gives : archive.Gives name content) :
    ∃ entry ∈ archive.entries, entry.name = name := by
  obtain ⟨entry, method, data, found, -⟩ := gives
  exact ⟨entry, List.mem_reverse.mp (List.mem_of_find?_eq_some found),
    by simpa using List.find?_some found⟩

/-- A name has only one content in an archive. -/
theorem Gives.unique
    {name : String}
    {other : List UInt8}
    (gives : archive.Gives name content)
    (givesOther : archive.Gives name other) :
    content = other := by
  obtain ⟨entry, method, data, found, packed, unpacked⟩ := gives
  obtain ⟨second, otherMethod, otherData, foundOther, packedOther, unpackedOther⟩ := givesOther
  obtain rfl := Option.some.inj (found.symm.trans foundOther)
  obtain ⟨rfl, rfl⟩ := Prod.mk.inj (Except.ok.inj (packed.symm.trans packedOther))
  exact Option.some.inj (unpacked.symm.trans unpackedOther)

/-- The entries of an archive are the files of a layout, with folders that these
are in. -/
structure Packs (archive : Zip.Archive) (layout : Layout) : Prop where
  file : ∀ location content, (location, content) ∈ layout →
    archive.Gives (entryName location) content
  named : ∀ entry ∈ archive.entries,
    (∃ location content, (location, content) ∈ layout ∧ entry.name = entryName location)
      ∨ ∃ location, layout.HasFolder location ∧ entry.name = entryName location ++ "/"

/-- A path that is spelled as neither a file nor a folder of the archive has no entry.
-/
theorem Packs.entry?_eq_none (packs : archive.Packs layout)
    (noFile : ∀ location content, (location, content) ∈ layout → path ≠ entryName location)
    (noFolder : ∀ location, layout.HasFolder location → path ≠ entryName location ++ "/") :
    archive.entry? path = none := by
  rw [ entry?, List.find?_eq_none]
  intro entry member
  rw [decide_eq_true_iff]
  rintro rfl
  rcases packs.named entry (List.mem_reverse.mp member) with
    ⟨location, content, among, same⟩ | ⟨location, above, same⟩
  · exact noFile location content among same
  · exact noFolder location above same

end Zip.Archive

/-! ## Spellings -/

/-- A path that is spelled as an archive calls a file: names between single slashes. -/
def Plain (path : String) : Prop :=
  path = entryName (pathNames path) ∧ "." ∉ pathNames path

/-- A path that starts at a folder and takes no step up. -/
structure Inward (path : String) : Prop where
  relative : isAbsolute path = false
  noUp : ".." ∉ pathNames path

theorem Inward.noUp_steps (inward : Inward path) : ".." ∉ pathSteps path := by
  rw [pathSteps, List.mem_append, not_or]
  refine ⟨inward.noUp, ?_⟩
  split <;> simp

section Named

variable (areNames : ∀ name ∈ location, IsName name)
include areNames

theorem pathNames_entryName : pathNames (entryName location) = location := by
  rw [pathNames_eq, entryName, String.toList_ofList, namesIn_slashed areNames]

theorem pathSteps_entryName : pathSteps (entryName location) = location := by
  rw [pathSteps, pathNames_entryName areNames, entryName, String.toList_ofList,
    if_neg (getLast?_slashed areNames), List.append_nil]

theorem plain_entryName : Plain (entryName location) := by
  rw [Plain, pathNames_entryName areNames]
  exact ⟨rfl, fun here => (areNames _ here).notHere rfl⟩

/-- What an archive calls a folder is no plain path. -/
theorem Plain.ne_folder (plain : Plain path) : path ≠ entryName location ++ "/" := by
  rintro rfl
  have names : pathNames (entryName location ++ "/") = location := by
    rw [pathNames_eq, String.toList_append, entryName, String.toList_ofList,
      show "/".toList = '/' :: [] from rfl, namesIn_append, namesIn_slashed areNames]
    exact List.append_nil location
  have longer := congrArg String.length plain.1
  rw [names, String.length_append] at longer
  have one : "/".length = 1 := rfl
  omega

end Named

/-- A path that is spelled plainly has no steps to the same place. -/
theorem Plain.settled (plain : Plain path) : World.settled (pathSteps path) = pathNames path := by
  have kept := World.settled_of_not_mem plain.2
  rw [pathSteps, World.settled_append, kept]
  split <;> simp [World.settled]

/-! ## Replies -/

inductive Reply where
  | program (content : List UInt8)
  | notFound (entry : String)
  | unsupported (platform : UnsupportedPlatform)
  /-- The bundle could not be read, or the program is not there afterwards. -/
  | failed
deriving DecidableEq, Repr

/-- The reply for a path that names a file, or none. -/
def Reply.ofFile (path : String) : Option (List UInt8) → Reply
  | some content => .program content
  | none => .notFound path

namespace Bundle

variable {bundle folder archive : Bundle} {layout : Layout}

/-- What the analyzer for a system is, read by its path after it was extracted. -/
def reply (bundle : Bundle) (osName : String) (world : World) : Reply :=
  match bundle.extract osName world with
  | .ok (binary, after) =>
    match after.read binary.path with
    | .ok content => .program content
    | .error _ => .failed
  | .error (.unsupported platform) => .unsupported platform
  | .error (.notFound entry _) => .notFound entry
  | .error (.archive _) | .error (.io _) => .failed

theorem reply_of_unsupported {platform : UnsupportedPlatform}
    (resolved : bundle.analyzers.resolve osName = .error platform) :
    bundle.reply osName world = .unsupported platform := by
  simp [reply, extract, resolved, Except.mapError, bind, Except.bind]

/-! ## Folders -/

/-- The bundle is a folder with the files of a layout; the paths of these can be
looked up. -/
structure HoldsInFolder (bundle : Bundle) (layout : Layout) (world : World) : Prop where
  named : world.root.WellNamed
  folder : ∃ place entries, world.Leads bundle.path place (.folder entries)
    ∧ (Node.folder entries).Holds layout
    ∧ ∀ location content, (location, content) ∈ layout →
      (locationPath (place ++ location)).utf8ByteSize ≤ World.maxPathSize

theorem HoldsInFolder.layout_named (held : bundle.HoldsInFolder layout world) : layout.Named := by
  obtain ⟨named, place, entries, leads, holds, -⟩ := held
  intro location content member
  obtain ⟨mode, there⟩ := (holds.file location content).mp member
  refine ⟨?_, fun name among => (named.at? leads.2).isName_of_mem there among⟩
  rintro rfl
  cases there

section Folder

variable (leads : world.Leads bundle.path place (.folder entries))
  (holds : (Node.folder entries).Holds layout)
  (inward : Inward path)
include leads holds inward

/-- Any spelling of the path of a file leads to it. -/
theorem leads_of_fileNamed?
    (layoutNamed : layout.Named)
    (found : layout.fileNamed? path = some content)
    (fits : (joinPath bundle.path path).utf8ByteSize ≤ World.maxPathSize) :
    ∃ mode, world.Leads (joinPath bundle.path path)
      (place ++ World.settled (pathSteps path)) (.file content mode) := by
  obtain ⟨member, ends⟩ := Layout.mem_of_fileNamed? found
  obtain ⟨inside, areNames⟩ := layoutNamed _ _ member
  obtain ⟨mode, there⟩ := (holds.file _ _).mp member
  have given : path ≠ "" := by
    rintro rfl
    exact inside (by decide)
  have noZero : '\x00' ∉ path.toList := by
    intro zero
    obtain ⟨name, among, inName⟩ := mem_pathNames zero (by decide)
    have notHere : name ≠ "." := by
      rintro rfl
      exact absurd inName (by decide)
    have settles : name ∈ World.settled (pathSteps path) := by
      simp [World.settled, pathSteps, among, notHere]
    exact (areNames name settles).noZero inName
  obtain ⟨left, leadsTo⟩ := leads.opens.resolve_joinPath inward.relative given
  refine ⟨mode, (leadsTo _).mpr ⟨noZero, fits, ?_⟩, ?_⟩
  · exact World.walk_to_file leads.2 there inward.noUp_steps ends
  · rw [Node.at?_append, leads.2]
    exact there

/-- A path that leads to a file is a spelling of the path of one. -/
theorem fileNamed?_of_isFile (isFile : world.isFile (joinPath bundle.path path)) :
    (layout.fileNamed? path).isSome := by
  unfold World.isFile at isFile
  split at isFile
  · rename_i content mode found
    obtain ⟨location, led, there⟩ := World.find_eq_ok found
    by_cases given : path = ""
    · subst given
      have same := leads.opens.resolve_joinPath_empty led
      subst same
      rw [leads.2] at there
      cases there
    · obtain ⟨left, leadsTo⟩ := leads.opens.resolve_joinPath inward.relative given
      obtain ⟨-, -, led⟩ := (leadsTo _).mp led
      obtain ⟨rfl, ends, -⟩ :=
        World.file_of_walk leads.2 holds.noLinks inward.noUp_steps led there
      rw [Node.at?_append, leads.2] at there
      exact Layout.fileNamed?_isSome ends ((holds.file _ _).mpr ⟨mode, there⟩)
  · contradiction

end Folder

/-- A folder has the file that the steps of a path name, in any spelling. -/
theorem HoldsInFolder.reply_eq (held : bundle.HoldsInFolder layout world)
    (resolved : bundle.analyzers.resolve osName = .ok path)
    (inward : Inward path)
    (fits : (layout.fileNamed? path).isSome →
      (joinPath bundle.path path).utf8ByteSize ≤ World.maxPathSize) :
    bundle.reply osName world = .ofFile path (layout.fileNamed? path) := by
  have layoutNamed := held.layout_named
  obtain ⟨named, place, entries, leads, holds, short⟩ := held
  have isFolder := leads.find
  cases found : layout.fileNamed? path with
  | none =>
    have missing : world.isFile (joinPath bundle.path path) = false := by
      rw [Bool.eq_false_iff]
      intro isFile
      simpa [found] using fileNamed?_of_isFile leads holds inward isFile
    simp [reply, extract, resolved, isFolder, extractFromFolder, missing, Reply.ofFile,
      Except.mapError, bind, Except.bind]
  | some content =>
    obtain ⟨mode, leadsTo⟩ :=
      leads_of_fileNamed? leads holds inward layoutNamed found (fits (by simp [found]))
    have member := (Layout.mem_of_fileNamed? found).1
    have isFile : world.isFile (joinPath bundle.path path) = true := by
      rw [World.isFile, leadsTo.find]
    have canonical : world.canonical (joinPath bundle.path path)
        = .ok (locationPath (place ++ World.settled (pathSteps path))) := by
      rw [World.canonical, leadsTo.1]
      rfl
    have read : world.read (locationPath (place ++ World.settled (pathSteps path)))
        = .ok content :=
      World.read_locationPath named leadsTo.2 (by simp [(layoutNamed _ _ member).1])
        (short _ _ member)
    simp [reply, extract, resolved, isFolder, extractFromFolder, isFile, canonical, read,
      Reply.ofFile, Except.mapError, bind, Except.bind, pure, Except.pure]

/-! ## Archives -/

/-- The bundle is an archive with the files of a layout. -/
def HoldsInArchive (bundle : Bundle) (layout : Layout) (world : World) : Prop :=
  ∃ place octets mode archive, world.Leads bundle.path place (.file octets mode)
    ∧ Zip.Archive.ofOctets? octets = some archive ∧ archive.Packs layout

def copyOf (bundle : Bundle) (world : World) (path : String) : String :=
  freshCopyName path (world.names (world.absolute bundle.temporaryFolder))

def CanCopy (bundle : Bundle) (world : World) (path : String) : Prop :=
  ∃ after location, world.create (world.absolute bundle.temporaryFolder)
    (bundle.copyOf world path) [] .ownerOnly = .ok (after, location)

section Archive

variable {archive : Zip.Archive} {octets : List UInt8} {base : String}
  (read : world.read base = .ok octets)
  (opened : Zip.Archive.ofOctets? octets = some archive)
include read opened

theorem packedEntry_of_gives (gives : archive.Gives path content) :
    ∃ entry method data, packedEntry world base path = .ok (entry, method, data)
      ∧ Zip.Archive.unpack? entry method data = some content := by
  obtain ⟨entry, method, data, found, packed, unpacked⟩ := gives
  refine ⟨entry, method, data, ?_, unpacked⟩
  simp [packedEntry, read, opened, found, packed, Except.mapError, bind, Except.bind, pure,
    Except.pure]

theorem gives_of_packedEntry {entry : Zip.Entry} {method : Zip.Archive.Method} {data : ByteArray}
    (packed : packedEntry world base path = .ok (entry, method, data))
    (unpacked : Zip.Archive.unpack? entry method data = some content) :
    archive.Gives path content := by
  simp only [packedEntry, read, opened, Except.mapError, bind, Except.bind] at packed
  cases found : archive.entry? path with
  | none => simp [found] at packed
  | some other =>
    cases sealed : archive.packed other with
    | error fault => simp [found, sealed] at packed
    | ok both =>
      obtain ⟨rfl, rfl⟩ : other = entry ∧ both = (method, data) := by
        simpa [found, sealed, pure, Except.pure] using packed
      exact ⟨other, method, data, found, sealed, unpacked⟩

theorem packedEntry_of_missing (missing : archive.entry? path = none) :
    packedEntry world base path = .error (.notFound path base) := by
  simp [packedEntry, read, opened, missing, Except.mapError, bind, Except.bind]

end Archive

/-- From an archive with the files of a layout nothing but copies of its entries is
extracted. -/
theorem HoldsInArchive.opened (held : bundle.HoldsInArchive layout world)
    (resolved : bundle.analyzers.resolve osName = .ok path) :
    ∃ octets archive, world.read bundle.path = .ok octets
      ∧ Zip.Archive.ofOctets? octets = some archive ∧ archive.Packs layout
      ∧ bundle.extract osName world
        = extractFromArchive world bundle.path bundle.temporaryFolder path := by
  obtain ⟨place, octets, mode, archive, leads, opened, packs⟩ := held
  refine ⟨octets, archive, leads.read, opened, packs, ?_⟩
  simp [extract, resolved, leads.find, Except.mapError, bind, Except.bind]

section File

variable (held : bundle.HoldsInArchive layout world)
  (resolved : bundle.analyzers.resolve osName = .ok (entryName location))
  (member : (location, content) ∈ layout)
include held resolved member

/-- A file of an archive is found under its own name. -/
theorem HoldsInArchive.reply_of_file (canCopy : bundle.CanCopy world (entryName location)) :
    bundle.reply osName world = .program content := by
  obtain ⟨octets, archive, read, opened, packs, extracted⟩ := held.opened resolved
  obtain ⟨entry, method, data, packed, unpacked⟩ :=
    packedEntry_of_gives read opened (packs.file location content member)
  obtain ⟨empty, copy, made⟩ := canCopy
  have isName : IsName (bundle.copyOf world (entryName location)) :=
    isName_freshCopyName (World.noZero_of_create made)
  have reads := @World.read_put_of_create _ _ _ _ _ content _ _
    Mode.ownerOnly.withExecution made freshCopyName_not_mem isName
  rw [copyOf] at made reads
  simp [reply, extracted, extractFromArchive, packed, unpacked, made, reads, Except.mapError, bind,
    Except.bind, pure, Except.pure]

/-- Where no copy can be made there is no program. -/
theorem HoldsInArchive.reply_of_fault {fault : SystemFault}
    (refused : world.create (world.absolute bundle.temporaryFolder)
      (bundle.copyOf world (entryName location)) [] .ownerOnly = .error fault) :
    bundle.reply osName world = .failed := by
  obtain ⟨octets, archive, read, opened, packs, extracted⟩ := held.opened resolved
  obtain ⟨entry, method, data, packed, -⟩ :=
    packedEntry_of_gives read opened (packs.file location content member)
  rw [copyOf] at refused
  simp [reply, extracted, extractFromArchive, packed, refused, Except.mapError, bind, Except.bind]

end File

/-- An archive looks a path up as it is spelled. -/
theorem HoldsInArchive.reply_of_missing (held : bundle.HoldsInArchive layout world)
    (resolved : bundle.analyzers.resolve osName = .ok path)
    (noFile : ∀ location content, (location, content) ∈ layout → path ≠ entryName location)
    (noFolder : ∀ location, layout.HasFolder location → path ≠ entryName location ++ "/") :
    bundle.reply osName world = .notFound path := by
  obtain ⟨octets, archive, read, opened, packs, extracted⟩ := held.opened resolved
  have missing := packedEntry_of_missing read opened (packs.entry?_eq_none noFile noFolder)
  simp [reply, extracted, extractFromArchive, missing, bind, Except.bind]

/-! ## The same files in a folder and in an archive -/

/-- A folder and an archive with the same files are interchangeable for all paths that
are plain: both have the content of the file that the path names, or nothing is found.
Of a path that is spelled otherwise the folder has the file that its steps name, and
the archive has nothing, unless the path is what it calls a folder.  A system without
an analyzer is refused by both. -/
theorem interchangeable
    (sameTable : folder.analyzers = archive.analyzers)
    (inFolder : folder.HoldsInFolder layout world)
    (inArchive : archive.HoldsInArchive layout other)
    (osName : String) :
    (∀ platform, folder.analyzers.resolve osName = .error platform →
      folder.reply osName world = .unsupported platform
        ∧ archive.reply osName other = .unsupported platform)
      ∧ ∀ path, folder.analyzers.resolve osName = .ok path → Inward path →
        ((layout.fileNamed? path).isSome →
          (joinPath folder.path path).utf8ByteSize ≤ World.maxPathSize
            ∧ (Plain path → archive.CanCopy other path)) →
        folder.reply osName world = .ofFile path (layout.fileNamed? path)
          ∧ (Plain path → archive.reply osName other = folder.reply osName world)
          ∧ (¬ Plain path →
            (∀ location, layout.HasFolder location → path ≠ entryName location ++ "/") →
            archive.reply osName other = .notFound path) := by
  refine ⟨fun platform refused => ?_, fun path resolved inward possible => ?_⟩
  · exact ⟨reply_of_unsupported refused, reply_of_unsupported (sameTable ▸ refused)⟩
  have named := inFolder.layout_named
  have inFolder := inFolder.reply_eq resolved inward fun present => (possible present).1
  rw [sameTable] at resolved
  refine ⟨inFolder, fun plain => ?plain, fun notPlain noFolder => ?spelled⟩
  case plain =>
    rw [inFolder]
    cases found : layout.fileNamed? path with
    | some content =>
      have member := (Layout.mem_of_fileNamed? found).1
      rw [plain.settled] at member
      have canCopy := (possible (by simp [found])).2 plain
      rw [plain.1] at resolved canCopy
      exact inArchive.reply_of_file resolved member canCopy
    | none =>
      refine inArchive.reply_of_missing resolved ?_ ?_
      · rintro location content member rfl
        have areNames := (named location content member).2
        have steps := pathSteps_entryName areNames
        have present : (layout.fileNamed? (entryName location)).isSome := by
          apply Layout.fileNamed?_isSome
          · rw [steps]
            exact fun ends => (areNames _ (List.mem_of_getLast? ends)).notHere rfl
          · rw [steps, World.settled_of_not_mem fun here => (areNames _ here).notHere rfl]
            exact member
        simp [found] at present
      · rintro location ⟨name, more, content, member⟩
        exact plain.ne_folder fun name among => (named _ content member).2 name (by simp [among])
  case spelled =>
    refine inArchive.reply_of_missing resolved ?_ noFolder
    rintro location content member rfl
    exact notPlain (plain_entryName (named location content member).2)

end Bundle

/-! ## One file in both -/

def oneFile : Layout :=
  [(["a", "b"], [91, 93])]

/-- An archive of the same file and its folder, neither of them compressed. -/
def oneFileArchive : List UInt8 :=
  [80, 75, 3, 4] ++ List.replicate 22 0 ++ [2, 0, 0, 0, 97, 47]
    ++ [80, 75, 3, 4] ++ List.replicate 10 0 ++ [41, 187, 76, 13, 2, 0, 0, 0, 2, 0, 0, 0]
    ++ [3, 0, 0, 0, 97, 47, 98, 91, 93]
    ++ [80, 75, 1, 2] ++ List.replicate 24 0 ++ [2, 0] ++ List.replicate 16 0 ++ [97, 47]
    ++ [80, 75, 1, 2] ++ List.replicate 12 0 ++ [41, 187, 76, 13, 2, 0, 0, 0, 2, 0, 0, 0, 3, 0]
    ++ List.replicate 12 0 ++ [32, 0, 0, 0, 97, 47, 98]
    ++ [80, 75, 5, 6, 0, 0, 0, 0, 2, 0, 2, 0, 97, 0, 0, 0, 67, 0, 0, 0, 0, 0]

def oneFileFolder : List (String × Node) :=
  [("a", .folder [("b", .file [91, 93] .program)])]

/-- Both of them, with a folder for copies. -/
def oneFileWorld : World where
  root := .folder [
    ("d", .folder oneFileFolder),
    ("t", .folder []),
    ("z", .file oneFileArchive .readable)]
  current := []
  programFolder := "/"
  temporaryFolder := "/t"

def oneFileBundle (bundle path folder : String) : Bundle :=
  ⟨bundle, .ofList [("Linux", path)], folder⟩

theorem wellNamed_oneFileWorld : oneFileWorld.root.WellNamed := by
  have inner : (Node.folder [("b", .file [91, 93] .program)]).WellNamed :=
    Node.wellNamed_folder (by decide) (by simpa using ⟨by decide, Node.wellNamed_file⟩)
  have outer : (Node.folder oneFileFolder).WellNamed :=
    Node.wellNamed_folder (by decide) (by simpa [oneFileFolder] using ⟨by decide, inner⟩)
  have empty : (Node.folder []).WellNamed := Node.wellNamed_folder (by decide) (by simp)
  refine Node.wellNamed_folder (by simp) ?_
  simpa using ⟨⟨by decide, outer⟩, ⟨by decide, empty⟩, by decide, Node.wellNamed_file⟩

theorem leads_folder : oneFileWorld.Leads "/d" ["d"] (.folder oneFileFolder) := by
  have steps : pathSteps "/d" = ["d"] := by decide
  have absolute : isAbsolute "/d" = true := by decide
  have there : oneFileWorld.root.at? ["d"] = some (.folder oneFileFolder) := rfl
  refine ⟨World.resolve_eq_ok_iff.mpr ⟨by decide, by decide, by decide, ?_⟩, there⟩
  rw [World.start, if_pos absolute, steps, World.walk_into (by decide) (by decide) there,
    World.walk]
  rfl

theorem leads_archive : oneFileWorld.Leads "/z" ["z"] (.file oneFileArchive .readable) := by
  have steps : pathSteps "/z" = ["z"] := by decide
  have absolute : isAbsolute "/z" = true := by decide
  have there : oneFileWorld.root.at? ["z"] = some (.file oneFileArchive .readable) := rfl
  refine ⟨World.resolve_eq_ok_iff.mpr ⟨by decide, by decide, by decide, ?_⟩, there⟩
  rw [World.start, if_pos absolute, steps, World.walk_onto (by decide) (by decide) there]
  rfl

theorem holdsInFolder_oneFile {path folder : String} :
    (oneFileBundle "/d" path folder).HoldsInFolder oneFile oneFileWorld := by
  refine ⟨wellNamed_oneFileWorld, ["d"], oneFileFolder, leads_folder, ?_, ?_⟩
  · exact Node.Holds.file_alone.within.within
  · intro location content member
    obtain ⟨rfl, -⟩ : location = ["a", "b"] ∧ content = _ := by simpa [oneFile] using member
    decide

theorem holdsInArchive_oneFile {path folder : String} :
    (oneFileBundle "/z" path folder).HoldsInArchive oneFile oneFileWorld := by
  let entries : List Zip.Entry :=
    [⟨"a/", false, 0, 0, 0, 0⟩, ⟨"a/b", false, 0, 0x0D4CBB29, 2, 32⟩]
  have directory : Zip.lastDirectory? ⟨oneFileArchive.toArray⟩ 165 = some entries := by
    decide +kernel
  refine ⟨["z"], oneFileArchive, .readable, ⟨⟨oneFileArchive.toArray⟩, entries⟩, leads_archive, ?_, ?_⟩
  · have size : (ByteArray.mk oneFileArchive.toArray).size - 21 = 165 := by decide +kernel
    rw [Zip.Archive.ofOctets?, size, directory]
    rfl
  constructor
  · intro location content member
    obtain ⟨rfl, rfl⟩ : location = ["a", "b"] ∧ content = [91, 93] := by
      simpa [oneFile] using member
    refine ⟨⟨"a/b", false, 0, 0x0D4CBB29, 2, 32⟩, .stored, ⟨#[91, 93]⟩, ?_, ?_, ?_⟩
    · decide +kernel
    · decide +kernel
    · decide +kernel
  · intro entry member
    have among : (["a", "b"], [91, 93]) ∈ oneFile := by decide
    rcases List.mem_pair.mp member with rfl | rfl
    · exact .inr ⟨["a"], ⟨"b", [], _, among⟩, by decide⟩
    · exact .inl ⟨["a", "b"], _, among, by decide⟩

theorem openFolder_oneFileWorld : oneFileWorld.openFolder "/t" = .ok (["t"], []) := by
  have joined : joinPath "/t" "." = "/t/." := by decide
  have steps : pathSteps "/t/." = ["t", "."] := by decide
  have absolute : isAbsolute "/t/." = true := by decide
  have there : oneFileWorld.root.at? ["t"] = some (.folder []) := rfl
  refine World.openFolder_eq_ok_iff.mpr ⟨?_, there⟩
  rw [joined, World.resolve_eq_ok_iff, World.start, if_pos absolute, steps,
    World.walk_into (by decide) (by decide) there, World.walk, World.walk]
  decide

theorem openFolder_none : oneFileWorld.openFolder "/none" = .error .missing := by
  have joined : joinPath "/none" "." = "/none/." := by decide
  have steps : pathSteps "/none/." = ["none", "."] := by decide
  have absolute : isAbsolute "/none/." = true := by decide
  have short : "/none/.".utf8ByteSize = 7 := by decide
  have there : oneFileWorld.root.at? ([] ++ ["none"]) = none := rfl
  have way : World.walk oneFileWorld.root true World.maxLinks [] ["none", "."]
      = .error .missing := by
    rw [World.walk_nowhere (by decide) (by decide) there]
    decide
  simp [World.openFolder, joined, World.resolve, absolute, steps, short, World.maxPathSize, way,
    bind, Except.bind]

theorem copyOf_oneFile
    {bundle path folder : String}
    (absolute : isAbsolute folder = true)
    (empty : oneFileWorld.names folder = []) :
    (oneFileBundle bundle path folder).copyOf oneFileWorld "a/b" = "b-000000" := by
  rw [Bundle.copyOf, oneFileBundle, World.absolute_eq_self absolute, empty]
  decide +kernel

theorem canCopy_oneFile {bundle path : String} :
    (oneFileBundle bundle path "/t").CanCopy oneFileWorld "a/b" := by
  have empty : oneFileWorld.names "/t" = [] := by
    rw [World.names, openFolder_oneFileWorld]
    rfl
  have absolute : isAbsolute "/t" = true := by decide
  have joined : joinPath "/t" "b-000000" = "/t/b-000000" := by decide +kernel
  have made : oneFileWorld.create "/t" "b-000000" [] .ownerOnly
      = .ok (oneFileWorld.put ["t", "b-000000"] (.file [] .ownerOnly), ["t", "b-000000"]) := by
    rw [World.create, openFolder_oneFileWorld, joined]
    rfl
  rw [Bundle.CanCopy, copyOf_oneFile absolute empty, oneFileBundle, World.absolute_eq_self absolute]
  exact ⟨_, _, made⟩

theorem resolve_oneFileBundle {bundle path folder : String} :
    (oneFileBundle bundle path folder).analyzers.resolve "Linux" = .ok path := by
  cbv

theorem fileNamed?_oneFile : oneFile.fileNamed? "a/b" = some [91, 93] := by
  decide

/-- The file has the same content in the folder and in the archive. -/
theorem Bundle.interchangeable_oneFile :
    let folder := oneFileBundle "/d" "a/b" "/t"
    let archive := oneFileBundle "/z" "a/b" "/t"
    folder.HoldsInFolder oneFile oneFileWorld ∧ archive.HoldsInArchive oneFile oneFileWorld
      ∧ Inward "a/b" ∧ Plain "a/b" ∧ archive.CanCopy oneFileWorld "a/b"
      ∧ folder.reply "Linux" oneFileWorld = .program [91, 93]
      ∧ archive.reply "Linux" oneFileWorld = .program [91, 93] := by
  intro folder archive
  have inward : Inward "a/b" := ⟨by decide, by decide⟩
  have plain : Plain "a/b" := ⟨by decide, by decide⟩
  have sameTable : folder.analyzers = archive.analyzers := rfl
  obtain ⟨-, replies⟩ := Bundle.interchangeable sameTable holdsInFolder_oneFile
    holdsInArchive_oneFile "Linux"
  obtain ⟨inFolder, inArchive, -⟩ := replies "a/b" resolve_oneFileBundle inward fun _ =>
    ⟨by decide, fun _ => canCopy_oneFile⟩
  rw [fileNamed?_oneFile] at inFolder
  exact ⟨holdsInFolder_oneFile, holdsInArchive_oneFile, inward, plain, canCopy_oneFile, inFolder,
    (inArchive plain).trans inFolder⟩

/-- With a step to the same place in its path the file is found in the folder only, and
where no copy can be made it is had from the folder only. -/
theorem Bundle.not_interchangeable :
    (∀ path folder, (oneFileBundle "/d" path folder).HoldsInFolder oneFile oneFileWorld
        ∧ (oneFileBundle "/z" path folder).HoldsInArchive oneFile oneFileWorld)
      ∧ Inward "./a/b"
      ∧ (oneFileBundle "/d" "./a/b" "/t").reply "Linux" oneFileWorld = .program [91, 93]
      ∧ (oneFileBundle "/z" "./a/b" "/t").reply "Linux" oneFileWorld = .notFound "./a/b"
      ∧ Inward "a/b"
      ∧ (oneFileBundle "/d" "a/b" "/none").reply "Linux" oneFileWorld = .program [91, 93]
      ∧ (oneFileBundle "/z" "a/b" "/none").reply "Linux" oneFileWorld = .failed := by
  have inFolder
      (path folder : String)
      (inward : Inward path)
      (found : oneFile.fileNamed? path = some [91, 93])
      (fits : (joinPath "/d" path).utf8ByteSize ≤ World.maxPathSize) :
      (oneFileBundle "/d" path folder).reply "Linux" oneFileWorld = .program [91, 93] := by
    rw [holdsInFolder_oneFile.reply_eq resolve_oneFileBundle inward fun _ => fits, found]
    rfl
  have step : Inward "./a/b" := ⟨by decide, by decide⟩
  have plain : Inward "a/b" := ⟨by decide, by decide⟩
  refine ⟨fun _ _ => ⟨holdsInFolder_oneFile, holdsInArchive_oneFile⟩, step,
    inFolder _ _ step (by decide) (by decide), ?spelled, plain,
    inFolder _ _ plain fileNamed?_oneFile (by decide), ?copied⟩
  case spelled =>
    refine holdsInArchive_oneFile.reply_of_missing resolve_oneFileBundle ?_ ?_
    · intro location content member
      obtain ⟨rfl, -⟩ : location = ["a", "b"] ∧ content = _ := by simpa [oneFile] using member
      decide
    · intro location _ same
      simpa using congrArg (·.toList.getLast?) same
  case copied =>
    have named : "a/b" = entryName ["a", "b"] := by decide
    have member : (["a", "b"], [91, 93]) ∈ oneFile := by decide
    have empty : oneFileWorld.names "/none" = [] := by rw [World.names, openFolder_none]
    have absolute : isAbsolute "/none" = true := by decide
    have joined : joinPath "/none" "b-000000" = "/none/b-000000" := by decide +kernel
    have refused : oneFileWorld.create (oneFileWorld.absolute "/none") "b-000000" [] .ownerOnly
        = .error .missing := by
      rw [World.absolute_eq_self absolute, World.create, openFolder_none, joined]
      rfl
    rw [← copyOf_oneFile absolute empty, named] at refused
    exact holdsInArchive_oneFile.reply_of_fault (named ▸ resolve_oneFileBundle) member refused

end Findings
