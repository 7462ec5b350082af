import Mathlib
import Findings.Proofs.Bundle.Copying
import Findings.Proofs.Files.Steps

/-!
Contract: the content of an extracted program, read by the path of the program.

Owns:
- a file is read by the path of its location;
- the name of a copy, which is the name of a file whatever entry it is a copy of;
- a copy is read by its path, and holds what was put into it.

Does not own: which content an entry of a bundle has.
-/

namespace Findings

variable {world after : World} {folder entry name tag : String} {location place : List String}
  {content : List UInt8} {mode : Mode}

/-! ## Files by their locations -/

namespace World

theorem read_locationPath (named : world.root.WellNamed)
    (there : world.root.at? location = some (.file content mode))
    (inside : location ≠ [])
    (short : (locationPath location).utf8ByteSize ≤ maxPathSize) :
    world.read (locationPath location) = .ok content := by
  have areNames : ∀ name ∈ location, IsName name := fun name => named.isName_of_mem there
  have chars := toList_locationPath inside
  have settles : settled location = location :=
    settled_of_not_mem fun here => (areNames _ here).notHere rfl
  refine Leads.read ⟨resolve_eq_ok_iff.mpr ⟨?_, ?_, short, ?_⟩, there⟩
  · rw [chars, List.mem_cons, not_or]
    refine ⟨by decide, fun member => ?_⟩
    rcases mem_slashed member with isSlash | ⟨name, among, zero⟩
    · exact absurd isSlash (by decide)
    · exact (areNames name among).noZero zero
  · intro empty
    rw [empty] at chars
    simp at chars
  · have absolute : isAbsolute (locationPath location) = true := by simp [isAbsolute, chars]
    rw [start, if_pos absolute, pathSteps_locationPath inside areNames]
    have top : world.root.at? [] = some world.root := rfl
    rw [walk_to_file top (settles.symm ▸ there) (fun up => (areNames _ up).notUp rfl)
        (fun ends => (areNames _ (List.mem_of_getLast? ends)).notHere rfl),
      settles, List.nil_append]

end World

/-! ## The name of a copy -/

theorem mem_splitName {chars : List Char} {c : Char} :
    (c ∈ (splitName chars).1 → c ∈ chars)
      ∧ ∀ after ∈ (splitName chars).2, c ∈ after → c ∈ chars := by
  simp only [splitName]
  split
  · refine ⟨List.mem_of_mem_take, ?_⟩
    rintro after ⟨⟩ member
    exact List.mem_reverse.mp ((List.takeWhile_sublist _).subset (List.mem_reverse.mp member))
  · exact ⟨id, by simp⟩

/-- No path has a name with a slash. -/
theorem fileName?_noSlash (named : fileName? entry = some name) : '/' ∉ name.toList := by
  unfold fileName? at named
  split at named
  · cases named
  · cases named
  · rename_i last
    obtain rfl := Option.some.inj named
    exact noSlash_of_mem_pathNames (List.mem_filter.mp (List.mem_of_getLast? last)).1

theorem fileStem?_noSlash (named : fileStem? entry = some name) : '/' ∉ name.toList := by
  obtain ⟨whole, found, rfl⟩ := Option.map_eq_some_iff.mp named
  rw [String.toList_ofList]
  exact fun member => fileName?_noSlash found (mem_splitName.1 member)

theorem extension?_noSlash (named : extension? entry = some name) : '/' ∉ name.toList := by
  unfold extension? at named
  obtain ⟨whole, found, rest⟩ := Option.bind_eq_some_iff.mp named
  obtain ⟨chars, ends, same⟩ := Option.bind_eq_some_iff.mp rest
  obtain rfl := Option.some.inj same
  rw [String.toList_ofList]
  exact fun member => fileName?_noSlash found (mem_splitName.2 chars ends member)

theorem copyTag_noSlash {n : Nat} : '/' ∉ (copyTag n).toList := by
  intro member
  rw [copyTag, String.toList_ofList, List.mem_append] at member
  rcases member with zero | digit
  · have := (List.mem_replicate.mp zero).2
    contradiction
  · have := Nat.isDigit_of_mem_toDigits (by decide) (by decide) digit
    contradiction

theorem copyName_noSlash (tagged : '/' ∉ tag.toList) : '/' ∉ (copyName entry tag).toList := by
  have stem : '/' ∉ ((fileStem? entry).getD "analyzer").toList := by
    cases named : fileStem? entry with
    | none => decide
    | some stem => exact fileStem?_noSlash named
  have extension : '/' ∉ (((extension? entry).map ("." ++ ·)).getD "").toList := by
    cases named : extension? entry with
    | none => decide
    | some extension => simpa using extension?_noSlash named
  simp [copyName, stem, tagged, extension]

theorem freshCopyName_eq (entry : String) (taken : List String) :
    ∃ n, freshCopyName entry taken = copyName entry (copyTag n) := by
  unfold freshCopyName
  simp only
  cases found : List.find? _ _ with
  | none => exact ⟨0, rfl⟩
  | some name =>
    obtain ⟨n, -, same⟩ := List.mem_map.mp (List.mem_of_find?_eq_some found)
    exact ⟨n, same.symm⟩

/-- A copy can be called by its name, unless the entry has a zero in its name. -/
theorem isName_copyName
    (tagged : '/' ∉ tag.toList)
    (noZero : '\x00' ∉ (copyName entry tag).toList) :
    IsName (copyName entry tag) := by
  have hyphen : '-' ∈ (copyName entry tag).toList := by simp [copyName]
  have other (short : String) (without : '-' ∉ short.toList) :
      copyName entry tag ≠ short := fun same => without (same ▸ hyphen)
  exact ⟨other _ (by decide), other _ (by decide), other _ (by decide),
    copyName_noSlash tagged, noZero⟩

theorem isName_freshCopyName {taken : List String}
    (noZero : '\x00' ∉ (freshCopyName entry taken).toList) :
    IsName (freshCopyName entry taken) := by
  obtain ⟨n, same⟩ := freshCopyName_eq entry taken
  rw [same] at noZero ⊢
  exact isName_copyName copyTag_noSlash noZero

/-! ## Copies by their paths -/

namespace World

theorem noZero_of_create
    (made : world.create folder name content mode = .ok (after, location)) :
    '\x00' ∉ name.toList := by
  intro zero
  have inPath : '\x00' ∈ (joinPath folder name).toList := by
    unfold joinPath
    split
    · exact zero
    · split <;> simp [zero]
  simp [create, inPath, bind, Except.bind] at made

/-- No file is made at a path that is too long to be looked up. -/
theorem short_of_create
    (made : world.create folder name content mode = .ok (after, location)) :
    (joinPath folder name).utf8ByteSize ≤ maxPathSize := by
  by_contra long
  by_cases zero : '\x00' ∈ (joinPath folder name).toList
  · simp [create, zero, bind, Except.bind] at made
  · simp [create, zero, not_le.mp long, bind, Except.bind] at made

/-- A path below a folder leads to the entry that was put under its name. -/
theorem leads_setEntries_append
    {entries : List (String × Node)}
    (opened : world.openFolder folder = .ok (place, entries))
    (fresh : name ∉ entries.map Prod.fst)
    (isName : IsName name)
    (short : (joinPath folder name).utf8ByteSize ≤ maxPathSize) :
    (world.setEntries place (entries ++ [(name, .file content mode)])).Leads
      (joinPath folder name) (place ++ [name]) (.file content mode) := by
  have held := (openFolder_eq_ok_iff.mp opened).2
  have opens : (world.setEntries place (entries ++ [(name, .file content mode)])).Opens folder
      place := opens_of_openFolder (openFolder_append opened)
  have there : (world.setEntries place (entries ++ [(name, .file content mode)])).root.at?
      (place ++ [name]) = some (.file content mode) := by
    rw [Node.at?_append, at?_setEntries held, Option.bind_some]
    simp [Node.at?, Node.entries, List.lookup_append, Dictionary.lookup_eq_none_of_not_mem fresh]
  obtain ⟨left, leads⟩ := opens.resolve_joinPath isName.isAbsolute_eq_false isName.nonempty
  refine ⟨(leads _).mpr ⟨isName.noZero, short, ?_⟩, there⟩
  rw [pathSteps_of_isName isName, walk_onto isName.notHere isName.notUp there]
  rfl

/-- A new file is read by the path that it was made at, and so is whatever is put in
its place. -/
theorem read_put_of_create
    {made : List UInt8}
    {final : Mode}
    (created : world.create folder name made mode = .ok (after, location))
    (fresh : name ∉ world.names folder)
    (isName : IsName name) :
    (after.put location (.file content final)).read (joinPath folder name) = .ok content := by
  have short := short_of_create created
  obtain ⟨place, entries, opened, rfl, rfl⟩ := create_eq_ok created
  have held := (openFolder_eq_ok_iff.mp opened).2
  rw [names, opened] at fresh
  rw [put_fresh held fresh, put_again held fresh]
  exact (leads_setEntries_append opened fresh isName short).read

end World

end Findings
