import Mathlib.Data.List.Nodup
import Mathlib.Data.List.Perm.Subperm
import Findings.Pass.Analyzer
import Findings.Proofs.Files.Folder

/-!
Contract: a copy of an analyzer made step by step, when any step may break off.

Owns:
- the name of a copy, which is new in its folder;
- `CopyCourse`, what is up to the system while a copy is made: the name, and the
  steps that break off;
- `Bundle.extractAlong`, the extraction in which the copy has an owner at each
  step, and an owner that is given up takes the copy away;
- what an extraction leaves: the files as they were, or one new file that
  belongs to the program.

Does not own: when a program is released.
-/

namespace Findings

variable {world after : World} {entry : String} {taken : List String}

/-! ## Names of copies -/

theorem copyTag_injective {m n : Nat} (same : copyTag m = copyTag n) : m = n := by
  -- Zeros in front do not change the number that the digits stand for.
  have read : ∀ n, Nat.ofDigitChars 10 (copyTag n).toList 0 = n := by
    intro n
    simp [copyTag, Nat.ofDigitChars_append]
  rw [← read m, same, read n]

/-- Different tags make different names. -/
theorem copyName_injective {m n : String} (same : copyName entry m = copyName entry n) : m = n := by
  simpa [copyName, String.ext_iff] using same

/-- Among one more names than there are taken, one is not taken. -/
theorem freshCopyName_not_mem : freshCopyName entry taken ∉ taken := by
  let candidates := (List.range (taken.length + 1)).map fun n => copyName entry (copyTag n)
  have distinct : candidates.Nodup :=
    List.Nodup.map (fun _ _ same => copyTag_injective (copyName_injective same)) List.nodup_range
  have someFree : ∃ name ∈ candidates, !taken.contains name := by
    by_contra allTaken
    have included : candidates ⊆ taken := by
      intro name member
      by_contra free
      exact allTaken ⟨name, member, by simpa using free⟩
    have bounded := (distinct.subperm included).length_le
    simp only [candidates, List.length_map, List.length_range] at bounded
    omega
  obtain ⟨name, found⟩ := Option.isSome_iff_exists.mp (List.find?_isSome.mpr someFree)
  have free := List.find?_some found
  have chosen : freshCopyName entry taken = name := by
    simp only [freshCopyName]
    rw [show (List.map _ _).find? _ = some name from found, Option.getD_some]
  simpa [chosen] using free

/-! ## Copies step by step -/

inductive CopyStep where
  /-- The bundle is looked at. -/
  | reading
  | creating
  | writing
  | syncing
  /-- The copy is made a file that can be run. -/
  | permitting
deriving DecidableEq, Repr

/-- What is up to the system while a copy is made. -/
structure CopyCourse where
  /-- The name for a copy of an entry, among names that are taken. -/
  choose : String → List String → String
  choose_not_mem : ∀ entry taken, choose entry taken ∉ taken
  /-- Why a step breaks off, if it does. -/
  breaks : CopyStep → Option ExtractionFailure
  /-- What lies in the copy when the writing ends too early. -/
  torn : List UInt8

namespace CopyCourse

/-- The course on which nothing breaks off. -/
def smooth : CopyCourse where
  choose := freshCopyName
  choose_not_mem _ _ := freshCopyName_not_mem
  breaks _ := none
  torn := []

@[simp]
theorem smooth_breaks {step : CopyStep} : smooth.breaks step = none :=
  rfl

/-- Writes the content into the copy, as far as the data have one, and waits until
it is stored; gives what was written. -/
def fill
    (course : CopyCourse)
    (location : List String)
    (content : Option (List UInt8))
    (world : World) :
    Except ExtractionFailure (List UInt8) × World :=
  match course.breaks .writing, content with
  | some failure, _ => (.error failure, world.put location (.file course.torn .ownerOnly))
  | none, none =>
    (.error (.error (.io .damaged)), world.put location (.file course.torn .ownerOnly))
  | none, some content =>
    match course.breaks .syncing with
    | some failure => (.error failure, world.put location (.file content .ownerOnly))
    | none => (.ok content, world.put location (.file content .ownerOnly))

/-- Makes a copy with a content.  First the open file owns the copy, then its
path, then the program; an owner that is given up takes the copy away. -/
def makeCopy
    (course : CopyCourse)
    (folder entry : String)
    (content : Option (List UInt8))
    (world : World) :
    Except ExtractionFailure Binary × World :=
  let name := course.choose entry (world.names folder)
  let path := joinPath folder name
  match course.breaks .creating with
  | some failure => (.error failure, world)
  | none =>
    match world.create folder name [] .ownerOnly with
    | .error fault => (.error (.error (.io (.creation fault path))), world)
    | .ok (created, location) =>
      match course.fill location content created with
      | (.error failure, filled) => (.error failure, filled.erase location)
      | (.ok written, filled) =>
        match course.breaks .permitting with
        | some failure => (.error failure, filled.erase location)
        | none =>
          (.ok ⟨path, some location⟩,
            filled.put location (.file written Mode.ownerOnly.withExecution))

end CopyCourse

/-- The analyzer for a system as a program that can be run, when copies are made
on a course. -/
def Bundle.extractAlong
    (bundle : Bundle)
    (course : CopyCourse)
    (osName : String)
    (world : World) :
    Except ExtractionFailure Binary × World :=
  match bundle.analyzers.resolve osName, course.breaks .reading with
  | .error platform, _ => (.error (.error (.unsupported platform)), world)
  | .ok _, some failure => (.error failure, world)
  | .ok entry, none =>
    match world.find bundle.path with
    | .error fault => (.error (.error (.io (.system fault))), world)
    | .ok (.folder _) => ((extractFromFolder world bundle.path entry).mapError .error, world)
    | .ok _ =>
      match packedEntry world bundle.path entry with
      | .error error => (.error (.error error), world)
      | .ok (found, method, data) =>
        course.makeCopy (world.absolute bundle.temporaryFolder) entry
          (Zip.Archive.unpack? found method data) world

/-! ## What an extraction leaves -/

/-- A program that owns a new file in a folder, and the files with it. -/
inductive Copied (folder : String) (world : World) : Binary → World → Prop where
  | copy
      {location : List String}
      {entries : List (String × Node)}
      {name : String}
      {content : List UInt8}
      (opened : world.openFolder folder = .ok (location, entries))
      (fresh : name ∉ entries.map Prod.fst) :
      Copied folder world ⟨joinPath folder name, some (location ++ [name])⟩
        (world.setEntries location (entries ++ [(name, .file content .program)]))

namespace CopyCourse

variable {course : CopyCourse} {folder : String} {location : List String}
  {content : Option (List UInt8)}

/-- However the filling ends, only the copy is written. -/
theorem fill_eq
    (course : CopyCourse)
    (location : List String)
    (content : Option (List UInt8))
    (world : World) :
    ∃ lying, (course.fill location content world).2 = world.put location (.file lying .ownerOnly) := by
  unfold fill
  split
  · exact ⟨course.torn, rfl⟩
  · exact ⟨course.torn, rfl⟩
  · split <;> exact ⟨_, rfl⟩

/-- A file that was made under a new name is one more entry of its folder, and
whatever is put in its place stays that entry. -/
theorem create_fresh
    {name : String}
    {created : World}
    {place : List String}
    (fresh : name ∉ world.names folder)
    (made : world.create folder name [] .ownerOnly = .ok (created, place)) :
    ∃ location entries,
      world.openFolder folder = .ok (location, entries) ∧ name ∉ entries.map Prod.fst
        ∧ world.root.at? location = some (.folder entries) ∧ place = location ++ [name]
        ∧ ∀ node,
          created.put place node = world.setEntries location (entries ++ [(name, node)]) := by
  obtain ⟨location, entries, opened, rfl, rfl⟩ := World.create_eq_ok made
  have held := (World.openFolder_eq_ok_iff.mp opened).2
  rw [World.names, opened] at fresh
  refine ⟨location, entries, opened, fresh, held, rfl, fun node => ?_⟩
  rw [World.put_fresh held fresh, World.put_again held fresh]

/-- What is written into a copy is the whole content. -/
theorem eq_some_of_fill
    {written : List UInt8}
    (filled : (course.fill location content world).1 = .ok written) :
    content = some written := by
  unfold fill at filled
  split at filled
  · cases filled
  · cases filled
  · split at filled
    · cases filled
    · exact congrArg some (Except.ok.inj filled)

/-- Either there is no copy, or it is a new file with the content that belongs to the
program. -/
theorem makeCopy_eq :
    let name := course.choose entry (world.names folder)
    (∃ failure, course.makeCopy folder entry content world = (.error failure, world))
      ∨ ∃ location entries octets, content = some octets
        ∧ world.openFolder folder = .ok (location, entries)
        ∧ name ∉ entries.map Prod.fst
        ∧ (∃ made, world.create folder name [] .ownerOnly = .ok made)
        ∧ course.makeCopy folder entry content world
          = (.ok ⟨joinPath folder name, some (location ++ [name])⟩,
            world.setEntries location (entries ++ [(name, .file octets .program)])) := by
  intro name
  cases creating : course.breaks .creating with
  | some failure => exact .inl ⟨failure, by simp only [makeCopy, creating]⟩
  | none =>
    have notTaken := course.choose_not_mem entry (world.names folder)
    change name ∉ _ at notTaken
    cases made : world.create folder name [] .ownerOnly with
    | error fault => exact .inl ⟨_, by simp only [makeCopy, creating, name, made]; rfl⟩
    | ok created =>
      obtain ⟨created, place⟩ := created
      obtain ⟨location, entries, opened, fresh, held, rfl, put_created⟩ :=
        create_fresh notTaken made
      -- Whatever lies in the copy, an owner that takes it away restores the folder.
      obtain ⟨lying, filled⟩ := course.fill_eq (location ++ [name]) content created
      rw [put_created] at filled
      have erased := World.erase_fresh held (.file lying .ownerOnly) fresh
      cases filling : course.fill (location ++ [name]) content created with
      | mk result after =>
        obtain rfl : after = _ := by simpa [filling] using filled
        cases result with
        | error failure =>
          exact .inl ⟨failure, by simp only [makeCopy, creating, name, made, filling, erased]⟩
        | ok written =>
          cases permitting : course.breaks .permitting with
          | some failure =>
            exact .inl ⟨failure,
              by simp only [makeCopy, creating, name, made, filling, permitting, erased]⟩
          | none =>
            have stored : (course.fill (location ++ [name]) content created).1 = .ok written := by
              rw [filling]
            refine .inr ⟨location, entries, written, eq_some_of_fill stored, opened, fresh,
              ⟨_, rfl⟩, ?_⟩
            simp only [makeCopy, creating, name, made, filling, permitting,
              World.put_again held fresh, Mode.withExecution_ownerOnly]

/-- Either there is no copy, or it belongs to the program. -/
theorem makeCopy_cases :
    (∃ failure, course.makeCopy folder entry content world = (.error failure, world))
      ∨ ∃ binary after, course.makeCopy folder entry content world = (.ok binary, after)
        ∧ Copied folder world binary after := by
  obtain failed | ⟨location, entries, octets, -, opened, fresh, -, made⟩ :=
    @makeCopy_eq world entry course folder content
  · exact .inl failed
  · exact .inr ⟨_, _, made, .copy opened fresh⟩

/-- On the smooth course a copy holds the content, or the data are damaged. -/
theorem makeCopy_smooth :
    smooth.makeCopy folder entry content world
      = let name := freshCopyName entry (world.names folder)
        match world.create folder name [] .ownerOnly, content with
        | .error fault, _ =>
          (.error (.error (.io (.creation fault (joinPath folder name)))), world)
        | .ok _, none => (.error (.error (.io .damaged)), world)
        | .ok (made, location), some octets =>
          (.ok ⟨joinPath folder name, some location⟩,
            made.put location (.file octets Mode.ownerOnly.withExecution)) := by
  have notTaken := smooth.choose_not_mem entry (world.names folder)
  rw [show smooth.choose = freshCopyName from rfl] at notTaken
  generalize chosen : freshCopyName entry (world.names folder) = name at notTaken
  cases made : world.create folder name [] .ownerOnly with
  | error fault => simp only [makeCopy, smooth, chosen, made]
  | ok created =>
    obtain ⟨created, place⟩ := created
    obtain ⟨location, entries, opened, fresh, held, rfl, put_created⟩ := create_fresh notTaken made
    cases content with
    | none =>
      simp only [makeCopy, smooth, fill, chosen, made, put_created, World.erase_fresh held _ fresh]
    | some octets =>
      simp only [makeCopy, smooth, fill, chosen, made, put_created, World.put_again held fresh]

end CopyCourse

theorem copy_of_extractFromFolder
    {bundle : String}
    {binary : Binary}
    (found : extractFromFolder world bundle entry = .ok binary) :
    binary.copy = none := by
  simp only [extractFromFolder] at found
  split at found
  · split at found
    · cases found
      rfl
    · cases found
  · cases found

namespace Bundle

variable {bundle : Bundle} {course : CopyCourse} {osName : String}

/-- An extraction fails and leaves the files as they were, or gives a program of a
folder and leaves them too, or gives a program that owns a new file. -/
theorem extractAlong_cases
    (bundle : Bundle)
    (course : CopyCourse)
    (osName : String)
    (world : World) :
    (∃ failure, bundle.extractAlong course osName world = (.error failure, world))
      ∨ (∃ binary, bundle.extractAlong course osName world = (.ok binary, world)
        ∧ binary.copy = none ∧ ∃ entries, world.find bundle.path = .ok (.folder entries))
      ∨ ∃ binary after, bundle.extractAlong course osName world = (.ok binary, after)
        ∧ Copied (world.absolute bundle.temporaryFolder) world binary after
        ∧ ∀ entries, world.find bundle.path ≠ .ok (.folder entries) := by
  unfold extractAlong
  split
  · exact .inl ⟨_, rfl⟩
  · exact .inl ⟨_, rfl⟩
  rename_i entry _ _
  cases found : world.find bundle.path with
  | error fault => exact .inl ⟨_, rfl⟩
  | ok node =>
    cases node with
    | folder entries =>
      cases located : extractFromFolder world bundle.path entry with
      | error error => exact .inl ⟨.error error, by simp [Except.mapError]⟩
      | ok binary =>
        exact .inr (.inl ⟨binary, by simp [Except.mapError],
          copy_of_extractFromFolder located, entries, rfl⟩)
    | file | link | device =>
      cases read : packedEntry world bundle.path entry with
      | error error => exact .inl ⟨.error error, rfl⟩
      | ok packed =>
        obtain ⟨found, method, data⟩ := packed
        obtain failed | ⟨binary, after, made, copied⟩ := course.makeCopy_cases
        · exact .inl failed
        · exact .inr (.inr ⟨binary, after, made, copied, by simp⟩)

theorem extractAlong_eq_ok
    {binary : Binary}
    (made : bundle.extractAlong course osName world = (.ok binary, after)) :
    (after = world ∧ binary.copy = none ∧ ∃ entries, world.find bundle.path = .ok (.folder entries))
      ∨ (Copied (world.absolute bundle.temporaryFolder) world binary after
        ∧ ∀ entries, world.find bundle.path ≠ .ok (.folder entries)) := by
  obtain ⟨failure, failed⟩ | ⟨found, same, unowned⟩ | ⟨found, left, same, copied⟩ :=
    bundle.extractAlong_cases course osName world
  · simp [failed] at made
  · obtain ⟨rfl, rfl⟩ : found = binary ∧ world = after := by simpa [same] using made
    exact .inl ⟨rfl, unowned⟩
  · obtain ⟨rfl, rfl⟩ : found = binary ∧ left = after := by simpa [same] using made
    exact .inr copied

/-- A failed extraction leaves the files as they were. -/
theorem world_of_extractAlong_error
    {failure : ExtractionFailure}
    (failed : bundle.extractAlong course osName world = (.error failure, after)) :
    after = world := by
  obtain ⟨other, same⟩ | ⟨binary, same, -⟩ | ⟨binary, left, same, -⟩ :=
    bundle.extractAlong_cases course osName world
  · exact (Prod.mk.inj (failed.symm.trans same)).2
  · simp [same] at failed
  · simp [same] at failed

/-- The extraction that is run is the one on the smooth course. -/
theorem extractAlong_smooth :
    bundle.extractAlong .smooth osName world = bundle.extractStage osName world := by
  unfold extractAlong extractStage extract
  cases bundle.analyzers.resolve osName with
  | error platform => rfl
  | ok entry =>
    cases world.find bundle.path with
    | error fault => simp [Except.mapError, bind, Except.bind]
    | ok node =>
      cases node with
      | folder entries =>
        cases located : extractFromFolder world bundle.path entry <;>
          simp [located, Except.mapError, bind, Except.bind, pure, Except.pure]
      | file | link | device =>
        simp only [CopyCourse.smooth_breaks, Except.mapError, bind, Except.bind]
        generalize read : packedEntry world bundle.path entry = packed
        cases packed with
        | error error => simp [extractFromArchive, read, bind, Except.bind]
        | ok packed =>
          simp only [CopyCourse.makeCopy_smooth, extractFromArchive, read, bind, Except.bind]
          cases world.create (world.absolute bundle.temporaryFolder)
            (freshCopyName entry (world.names (world.absolute bundle.temporaryFolder))) []
            .ownerOnly with
          | error fault => rfl
          | ok made => cases Zip.Archive.unpack? packed.1 packed.2.1 packed.2.2 <;> rfl

end Bundle

end Findings
