import Findings.Host.Scan
import Findings.Proofs.Files.Node

/-!
Contract: trees of files whose names are those of a file system.

Owns:
- `IsName`, the texts that a file system admits as names;
- `Node.WellNamed`, trees all of whose folders have different entries under such
  names;
- the places that a walk through such a tree comes by: they are those of its files
  and folders, and none comes twice.

Does not own: paths, which are texts made of names.
-/

namespace Findings

def Stop.names : Stop → List String
  | folder names | file names => names

/-- A text that a file can be called by. -/
structure IsName (name : String) : Prop where
  nonempty : name ≠ ""
  notHere : name ≠ "."
  notUp : name ≠ ".."
  noSlash : '/' ∉ name.toList
  noZero : '\x00' ∉ name.toList

instance {name : String} : Decidable (IsName name) :=
  decidable_of_iff
    (name ≠ "" ∧ name ≠ "." ∧ name ≠ ".." ∧ '/' ∉ name.toList ∧ '\x00' ∉ name.toList)
    ⟨fun ⟨nonempty, notHere, notUp, noSlash, noZero⟩ => ⟨nonempty, notHere, notUp, noSlash, noZero⟩,
      fun isName => ⟨isName.nonempty, isName.notHere, isName.notUp, isName.noSlash, isName.noZero⟩⟩

/-- All folders of a tree have different entries, under names of files. -/
def Node.WellNamed (node : Node) : Prop :=
  ∀ place entries, node.at? place = some (.folder entries) →
    (entries.map Prod.fst).Nodup ∧ ∀ name ∈ entries.map Prod.fst, IsName name

variable {node inner : Node} {name : String} {names above place : List String}
  {entries : List (String × Node)} {content : List UInt8} {mode : Mode} {stop : Stop}

namespace Node

/-! ## Well-named trees -/

theorem wellNamed_file : (file content mode).WellNamed := by
  intro place entries there
  cases place with
  | nil => cases there
  | cons name more => simp [at?_file_cons] at there

theorem wellNamed_link {target : String} : (link target).WellNamed := by
  intro place entries there
  cases place with
  | nil => cases there
  | cons name more => simp [Node.at?, Node.entries] at there

/-- The part of a well-named tree at a place is well-named. -/
theorem WellNamed.at? (named : node.WellNamed) (there : node.at? place = some inner) :
    inner.WellNamed := by
  intro further entries below
  apply named (place ++ further)
  rw [at?_append, there]
  exact below

/-- An entry of a folder has a name that a file can have, and is what its name is looked
up for. -/
theorem WellNamed.entry
    (named : (folder entries).WellNamed)
    (member : (name, inner) ∈ entries) :
    IsName name ∧ inner.WellNamed ∧ entries.lookup name = some inner := by
  obtain ⟨distinct, areNames⟩ := named [] entries rfl
  have held := Dictionary.lookup_of_mem distinct member
  refine ⟨areNames name (List.mem_map_of_mem member), ?_, held⟩
  have there : (folder entries).at? [name] = some inner := by
    simp [Node.at?, Node.entries, held]
  exact named.at? there

/-- A folder is well-named if its entries are. -/
theorem wellNamed_folder
    (distinct : (entries.map Prod.fst).Nodup)
    (named : ∀ entry ∈ entries, IsName entry.1 ∧ entry.2.WellNamed) :
    (folder entries).WellNamed := by
  intro place later there
  cases place with
  | nil =>
    cases there
    refine ⟨distinct, fun name member => ?_⟩
    obtain ⟨entry, inside, rfl⟩ := List.mem_map.mp member
    exact (named entry inside).1
  | cons name more =>
    obtain ⟨_, inner, isFolder, held, below⟩ := folder_of_at?_cons there
    cases isFolder
    have inside : (name, inner) ∈ entries := by
      obtain ⟨before, after, rfl, -⟩ := List.lookup_eq_some_iff.mp held
      simp
    exact (named _ inside).2 more later below

/-- All names on the way to a place of a well-named tree are names of files. -/
theorem WellNamed.isName_of_mem
    (named : node.WellNamed)
    (there : node.at? place = some inner)
    (member : name ∈ place) :
    IsName name := by
  induction place generalizing node with
  | nil => simp at member
  | cons first more inductionHypothesis =>
    obtain ⟨entries, next, rfl, held, below⟩ := folder_of_at?_cons there
    have inside : (first, next) ∈ entries := by
      obtain ⟨before, after, rfl, -⟩ := List.lookup_eq_some_iff.mp held
      simp
    obtain ⟨isName, nextNamed, -⟩ := named.entry inside
    rcases List.mem_cons.mp member with rfl | later
    · exact isName
    · exact inductionHypothesis nextNamed below later

/-! ## Places of a well-named tree -/

/-- What a walk comes by where a node is, if anything. -/
def stop? (names : List String) : Node → Option Stop
  | file .. => some (.file names)
  | folder _ => some (.folder names)
  | link _ | device _ => none

theorem stop?_eq_file_iff :
    node.stop? names = some (.file place)
      ↔ names = place ∧ ∃ content mode, node = .file content mode := by
  cases node <;> simp [stop?]

theorem stop?_eq_folder_iff :
    node.stop? names = some (.folder place) ↔ names = place ∧ ∃ entries, node = .folder entries := by
  cases node <;> simp [stop?]

mutual

/-- A walk comes by nothing but files and folders, at their places. -/
theorem at?_of_mem_stops :
    (node : Node) → node.WellNamed → (above : List String) → stop ∈ node.stops above →
      ∃ place inner, node.at? place = some inner ∧ inner.stop? (above ++ place) = some stop
  | .file content mode, _, above, member => by
      obtain rfl : stop = .file above := by simpa [stops] using member
      exact ⟨[], .file content mode, rfl, by simp [stop?]⟩
  | .link _, _, _, member | .device _, _, _, member => by simp [stops] at member
  | .folder entries, named, above, member => by
      rw [stops, List.mem_cons] at member
      rcases member with rfl | below
      · exact ⟨[], .folder entries, rfl, by simp [stop?]⟩
      · obtain ⟨name, inner, place, found, inside, there, same⟩ :=
          at?_of_mem_stopsOfEntries entries (fun _ inside => (named.entry inside).2.1) above below
        refine ⟨name :: place, found, ?_, same⟩
        rw [at?, Node.entries, (named.entry inside).2.2]
        exact there

theorem at?_of_mem_stopsOfEntries :
    (entries : List (String × Node)) →
      (∀ entry ∈ entries, entry.2.WellNamed) →
      (above : List String) →
      stop ∈ stopsOfEntries above entries →
      ∃ name inner place found, (name, inner) ∈ entries ∧ inner.at? place = some found
        ∧ found.stop? (above ++ name :: place) = some stop
  | [], _, _, member => by simp [stopsOfEntries] at member
  | (name, inner) :: more, named, above, member => by
      rw [stopsOfEntries, List.mem_append] at member
      rcases member with first | later
      · obtain ⟨place, found, there, same⟩ :=
          at?_of_mem_stops inner (named _ List.mem_cons_self) _ first
        exact ⟨name, inner, place, found, List.mem_cons_self, there, by simpa using same⟩
      · obtain ⟨other, below, place, found, inside, there, same⟩ :=
          at?_of_mem_stopsOfEntries more (fun _ inside => named _ (List.mem_cons_of_mem _ inside))
            above later
        exact ⟨other, below, place, found, List.mem_cons_of_mem _ inside, there, same⟩

end

theorem mem_stopsOfEntries
    (entry : (name, inner) ∈ entries)
    (inside : stop ∈ inner.stops (above ++ [name])) :
    stop ∈ stopsOfEntries above entries := by
  induction entries with
  | nil => simp at entry
  | cons first more inductionHypothesis =>
    rw [stopsOfEntries, List.mem_append]
    rcases List.mem_cons.mp entry with rfl | later
    · exact .inl inside
    · exact .inr (inductionHypothesis later)

/-- A walk comes by every file and every folder. -/
theorem mem_stops_of_at?
    (there : node.at? place = some inner)
    (same : inner.stop? (above ++ place) = some stop) :
    stop ∈ node.stops above := by
  induction place generalizing node above with
  | nil =>
    obtain rfl : node = inner := Option.some.inj there
    rw [List.append_nil] at same
    cases node with
    | file | folder => simp_all [stop?, stops]
    | link | device => simp [stop?] at same
  | cons name more inductionHypothesis =>
    obtain ⟨entries, next, rfl, held, below⟩ := folder_of_at?_cons there
    have entry : (name, next) ∈ entries := by
      obtain ⟨before, after, rfl, -⟩ := List.lookup_eq_some_iff.mp held
      simp
    rw [List.append_cons] at same
    exact List.mem_cons_of_mem _ (mem_stopsOfEntries entry (inductionHypothesis below same))

/-- A walk comes by exactly the files and folders of the tree, each where it is. -/
theorem mem_stops_iff (named : node.WellNamed) :
    stop ∈ node.stops [] ↔ ∃ place inner, node.at? place = some inner
      ∧ inner.stop? place = some stop := by
  constructor
  · intro member
    simpa using at?_of_mem_stops node named [] member
  · rintro ⟨place, inner, there, same⟩
    exact mem_stops_of_at? there same

/-- A walk comes by a file exactly where the tree has one. -/
theorem file_mem_stops_iff (named : node.WellNamed) :
    .file names ∈ node.stops [] ↔ ∃ content mode, node.at? names = some (.file content mode) := by
  simp only [mem_stops_iff named, stop?_eq_file_iff]
  constructor
  · rintro ⟨place, inner, there, rfl, content, mode, rfl⟩
    exact ⟨content, mode, there⟩
  · rintro ⟨content, mode, there⟩
    exact ⟨names, _, there, rfl, content, mode, rfl⟩

/-- Below a file there is nothing else. -/
theorem eq_nil_of_file
    (alone : node.at? [] = some (.file content mode))
    (there : node.at? place = some inner) :
    place = [] := by
  obtain rfl : node = .file content mode := Option.some.inj alone
  cases place with
  | nil => rfl
  | cons name more => simp [at?_file_cons] at there

/-- The names of a stop are those of the node that it is. -/
theorem names_of_stop? (same : node.stop? names = some stop) : stop.names = names := by
  cases node <;> simp_all [stop?, Stop.names] <;> simp [← same]

mutual

/-- No place comes twice in a walk through a well-named tree. -/
theorem nodup_stops :
    (node : Node) → node.WellNamed → (above : List String) → (node.stops above).Nodup
  | .file .., _, above => by simp [stops]
  | .link _, _, above | .device _, _, above => by simp [stops]
  | .folder entries, named, above => by
      have entriesNamed : ∀ entry ∈ entries, entry.2.WellNamed :=
        fun _ inside => (named.entry inside).2.1
      rw [stops, List.nodup_cons]
      refine ⟨fun again => ?_,
        nodup_stopsOfEntries entries (named [] entries rfl).1 entriesNamed above⟩
      obtain ⟨name, inner, place, found, -, -, same⟩ :=
        at?_of_mem_stopsOfEntries entries entriesNamed above again
      simpa using (stop?_eq_folder_iff.mp same).1

/-- No place comes twice on a walk through the entries of a folder. -/
theorem nodup_stopsOfEntries :
    (entries : List (String × Node)) →
      (entries.map Prod.fst).Nodup →
      (∀ entry ∈ entries, entry.2.WellNamed) →
      (above : List String) →
      (stopsOfEntries above entries).Nodup
  | [], _, _, above => by simp [stopsOfEntries]
  | (name, inner) :: more, distinct, named, above => by
      rw [List.map_cons, List.nodup_cons] at distinct
      have moreNamed : ∀ entry ∈ more, entry.2.WellNamed :=
        fun _ inside => named _ (List.mem_cons_of_mem _ inside)
      rw [stopsOfEntries, List.nodup_append]
      refine ⟨nodup_stops inner (named _ List.mem_cons_self) _,
        nodup_stopsOfEntries more distinct.2 moreNamed above, ?_⟩
      -- The places in different entries differ where the names of the entries stand.
      rintro stop first _ later rfl
      obtain ⟨place, found, -, same⟩ := at?_of_mem_stops inner (named _ List.mem_cons_self) _ first
      obtain ⟨entry, below, further, other, inside, -, alike⟩ :=
        at?_of_mem_stopsOfEntries more moreNamed above later
      obtain ⟨rfl, -⟩ : name = entry ∧ place = further := by
        simpa using (names_of_stop? same).symm.trans (names_of_stop? alike)
      exact distinct.1 (List.mem_map.mpr ⟨_, inside, rfl⟩)

end

end Node

end Findings
