import Findings.Files.World
import Findings.Proofs.Files.Node

/-!
Contract: a folder whose entries change while paths are looked up.

Owns:
- `Node.Keeps`, a tree in which nothing but some files is gone, and folders may
  have other entries;
- every path that led somewhere leads to the same location in such a tree;
- `World.setEntries`, and a folder that is opened after its entries were set.

Does not own: whose files come and go.
-/

namespace Findings

namespace Node

variable {root changed node : Node} {gone : List String → Prop}
  {location place here steps : List String} {entries later : List (String × Node)}

/-! ## Trees that keep what they have -/

/-- Everything is still there but some files that are gone; folders may have
other entries. -/
structure Keeps (gone : List String → Prop) (root changed : Node) : Prop where
  folders : ∀ place entries, root.at? place = some (folder entries) →
    ∃ later, changed.at? place = some (folder later)
  others : ∀ place node, root.at? place = some node → (∀ entries, node ≠ folder entries) →
    ¬ (gone place ∧ ∃ content mode, node = file content mode) →
      changed.at? place = some node

/-- A path that led somewhere leads there still, unless it led to a file that is
gone. -/
theorem Keeps.walk
    {follow : Bool}
    {links : Nat}
    (kept : Keeps gone root changed)
    (led : World.walk root follow links here steps = .ok location)
    (present : ¬ gone location) :
    World.walk changed follow links here steps = .ok location := by
  -- The cases are those of the way through the old tree; each finds the same kind
  -- of node in the new one.
  fun_induction World.walk root follow links here steps with
  | case1 links here => simpa only [World.walk] using led
  | case2 links here more inductionHypothesis | case3 links here more inductionHypothesis =>
    rw [World.walk]
    exact inductionHypothesis led
  | case5 links here name more notHere notUp entries found inductionHypothesis =>
    obtain ⟨later, there⟩ := kept.folders _ _ found
    rw [World.walk, there] <;> try assumption
    exact inductionHypothesis led
  | case6 links here name more notHere notUp content mode found last =>
    cases led
    have there := kept.others _ _ found (by simp) fun lost => present lost.1
    rw [World.walk, there] <;> try assumption
    exact if_pos last
  | case8 links here name more notHere notUp kind found last =>
    cases led
    rw [World.walk, kept.others _ _ found (by simp) (by simp)] <;> try assumption
    exact if_pos last
  | case10 links here name more notHere notUp target found last =>
    rw [World.walk, kept.others _ _ found (by simp) (by simp)] <;> try assumption
    exact (if_pos last).trans led
  | case12 here name more notHere notUp target found notLast links inductionHypothesis =>
    rw [World.walk, kept.others _ _ found (by simp) (by simp)] <;> try assumption
    exact (if_neg notLast).trans (inductionHypothesis led)
  | case4 | case7 | case9 | case11 => cases led

/-! ## A folder with other entries -/

/-- Entries that are still there, but for some files. -/
def KeepsEntries (lost : String → Prop) (entries later : List (String × Node)) : Prop :=
  ∀ name inner, entries.lookup name = some inner →
    later.lookup name = some inner
      ∨ (lost name ∧ ∃ content mode, inner = file content mode)

theorem KeepsEntries.append {lost : String → Prop} {more : List (String × Node)} :
    KeepsEntries lost entries (entries ++ more) := by
  intro name inner held
  rw [List.lookup_append, held]
  exact .inl rfl

/-- Taking a file out of a folder keeps all other entries. -/
theorem KeepsEntries.filter
    {name : String}
    (isFile : ∀ inner, entries.lookup name = some inner →
      ∃ content mode, inner = file content mode) :
    KeepsEntries (· = name) entries (entries.filter (·.1 ≠ name)) := by
  intro other inner held
  by_cases same : other = name
  · subst same
    exact .inr ⟨rfl, isFile inner held⟩
  · exact .inl ((Dictionary.lookup_filter_ne same).trans held)

/-- A name that is new to a folder can only be that of an entry that came
later. -/
theorem file_of_lookup_append
    {more : List (String × Node)}
    {name : String}
    (fresh : name ∉ entries.map Prod.fst)
    (files : ∀ entry ∈ more, ∃ content mode, entry.2 = file content mode)
    (held : (entries ++ more).lookup name = some node) :
    ∃ content mode, node = file content mode := by
  rw [List.lookup_append, Dictionary.lookup_eq_none_of_not_mem fresh, Option.none_or] at held
  obtain ⟨before, after, rfl, -⟩ := List.lookup_eq_some_iff.mp held
  exact files (name, node) (by simp)

theorem file_of_mem_singleton {name : String} {content : List UInt8} {mode : Mode} :
    ∀ entry ∈ [(name, file content mode)],
      ∃ content mode, entry.2 = file content mode := by
  intro entry member
  exact ⟨content, mode, by rw [List.mem_singleton.mp member]⟩

/-- What is not above a folder and not a lost entry of it is still there. -/
theorem at?_put_folder
    (found : root.at? location = some (folder entries))
    (there : root.at? place = some node)
    (notAbove : ¬ place <+: location)
    (kept : KeepsEntries (fun name => place ≠ location ++ [name]) entries later) :
    (root.put location (folder later)).at? place = some node := by
  by_cases below : location <+: place
  · obtain ⟨more, rfl⟩ := below
    rw [at?_append, found, Option.bind_some] at there
    rw [at?_put_append _ _ found]
    cases more with
    | nil => simp at notAbove
    | cons name further =>
      obtain ⟨_, inner, isFolder, held, deeper⟩ := folder_of_at?_cons there
      cases isFolder
      obtain same | ⟨apart, content, mode, rfl⟩ := kept name inner held
      · simp only [at?, Node.entries, same]
        exact deeper
      · -- Nothing is below a file, so the place is the file itself.
        cases further with
        | nil => exact absurd rfl apart
        | cons first rest => simp [at?_file_cons] at deeper
  · rw [at?_put_of_apart found below notAbove, there]

/-- A folder that loses nothing but files. -/
theorem keeps_put_folder
    (found : root.at? location = some (folder entries))
    (kept : KeepsEntries (fun name => gone (location ++ [name])) entries later) :
    Keeps gone root (root.put location (folder later)) := by
  constructor
  case folders =>
    intro place before there
    by_cases prior : place <+: location
    · exact folder_of_prefix (at?_put_self (folder later) found) prior
    · refine ⟨before, at?_put_folder found there prior fun name inner held => ?_⟩
      obtain same | ⟨-, content, mode, isFile⟩ := kept name inner held
      · exact .inl same
      · refine .inr ⟨?_, content, mode, isFile⟩
        rintro rfl
        simp [at?_append, found, at?, Node.entries, held, isFile] at there
  case others =>
    intro place inner there noFolder present
    by_cases prior : place <+: location
    · obtain ⟨before, isFolder⟩ := folder_of_prefix found prior
      exact absurd (Option.some.inj (there.symm.trans isFolder)) (noFolder before)
    · refine at?_put_folder found there prior fun name next held => ?_
      obtain same | ⟨lost, content, mode, isFile⟩ := kept name next held
      · exact .inl same
      · refine .inr ⟨?_, content, mode, isFile⟩
        rintro rfl
        have isFileThere : inner = file content mode := by
          simpa [at?_append, found, at?, Node.entries, held, isFile] using there.symm
        exact present ⟨lost, content, mode, isFileThere⟩

end Node

namespace World

variable {world after : World} {gone : List String → Prop} {folder path name : String}
  {location place : List String} {entries later : List (String × Node)} {node other : Node}
  {follow : Bool}

/-- The files around a program, with other entries in the folder at a
location. -/
def setEntries (world : World) (location : List String) (entries : List (String × Node)) : World :=
  world.put location (.folder entries)

/-! ## Paths -/

/-- A path leads where it led before, as long as the place is still there. -/
theorem resolve_of_keeps
    {changed : Node}
    (kept : Node.Keeps gone world.root changed)
    (led : world.resolve follow path = .ok location)
    (present : ¬ gone location) :
    { world with root := changed : World }.resolve follow path = .ok location := by
  unfold resolve at led ⊢
  split at led
  case isTrue => cases led
  case isFalse clean =>
    rw [if_neg clean]
    split at led
    case isTrue => cases led
    case isFalse given =>
      rw [if_neg given]
      split at led
      case isTrue => cases led
      case isFalse short =>
        rw [if_neg short]
        exact kept.walk led present

/-- A path that leads to a node leads to its place. -/
theorem find_eq_ok (found : world.find path = .ok node) :
    ∃ place, world.resolve true path = .ok place ∧ world.root.at? place = some node := by
  unfold find at found
  cases led : world.resolve true path with
  | error fault => simp [led, bind, Except.bind] at found
  | ok place =>
    simp only [led, bind, Except.bind] at found
    split at found
    case h_1 held =>
      cases found
      exact ⟨place, rfl, held⟩
    case h_2 => cases found

theorem openFolder_eq_ok_iff :
    world.openFolder folder = .ok (location, entries)
      ↔ world.resolve true (joinPath folder ".") = .ok location
        ∧ world.root.at? location = some (.folder entries) := by
  unfold openFolder
  cases world.resolve true (joinPath folder ".") with
  | error fault => simp [bind, Except.bind]
  | ok found =>
    simp only [bind, Except.bind, Except.ok.injEq]
    constructor
    · intro opened
      split at opened
      case h_1 held =>
        cases opened
        exact ⟨rfl, held⟩
      case h_2 => cases opened
      case h_3 => cases opened
    · rintro ⟨rfl, held⟩
      simp only [held]

/-- A file is made in the folder that is opened, and nothing else changes. -/
theorem create_eq_ok
    {content : List UInt8}
    {mode : Mode}
    (made : world.create folder name content mode = .ok (after, place)) :
    ∃ location entries,
      world.openFolder folder = .ok (location, entries) ∧ place = location ++ [name]
        ∧ after = world.put (location ++ [name]) (.file content mode) := by
  unfold create at made
  by_cases zero : '\x00' ∈ (joinPath folder name).toList
  · simp [zero, bind, Except.bind] at made
  by_cases longPath : maxPathSize < (joinPath folder name).utf8ByteSize
  · simp [zero, longPath, bind, Except.bind] at made
  cases opened : world.openFolder folder with
  | error fault => simp [zero, longPath, opened, bind, Except.bind] at made
  | ok folder =>
    obtain ⟨location, entries⟩ := folder
    refine ⟨location, entries, rfl, ?_⟩
    by_cases long : maxNameSize < name.utf8ByteSize
    · simp [zero, longPath, opened, long, bind, Except.bind] at made
    · simp only [zero, longPath, opened, long, List.contains_eq_mem, decide_false, if_false, bind,
        Except.bind, pure, Except.pure, Bool.false_eq_true, Except.ok.injEq,
        Prod.mk.injEq] at made
      exact ⟨made.2.symm, made.1.symm⟩

/-! ## Entries that are set -/

section Entries

variable (held : world.root.at? location = some (.folder entries))
include held

theorem at?_setEntries :
    (world.setEntries location later).root.at? location = some (.folder later) :=
  Node.at?_put_self _ held

theorem setEntries_self : world.setEntries location entries = world := by
  unfold setEntries put
  rw [Node.put_at? held]

theorem setEntries_setEntries {further : List (String × Node)} :
    (world.setEntries location later).setEntries location further
      = world.setEntries location further := by
  unfold setEntries put
  rw [Node.put_put held]

/-- Where a name is new, a node is put behind all other entries. -/
theorem put_fresh (fresh : name ∉ entries.map Prod.fst) :
    world.put (location ++ [name]) node
      = world.setEntries location (entries ++ [(name, node)]) := by
  unfold setEntries put
  rw [Node.put_append held]
  simp [Node.put, Dictionary.put_of_not_mem fresh]

/-- The node of an entry that was just made is put in its place. -/
theorem put_again (fresh : name ∉ entries.map Prod.fst) :
    (world.setEntries location (entries ++ [(name, node)])).put (location ++ [name]) other
      = world.setEntries location (entries ++ [(name, other)]) := by
  calc (world.setEntries location (entries ++ [(name, node)])).put (location ++ [name]) other
      = (world.setEntries location (entries ++ [(name, node)])).setEntries location
          (entries ++ [(name, other)]) := by
        unfold setEntries put
        rw [Node.put_append (Node.at?_put_self _ held)]
        simp [Node.put, Dictionary.put_append_self fresh]
    _ = world.setEntries location (entries ++ [(name, other)]) := setEntries_setEntries held

/-- Taking an entry away leaves the other entries of the folder in order. -/
theorem erase_entry :
    world.erase (location ++ [name]) = world.setEntries location (entries.filter (·.1 ≠ name)) := by
  unfold setEntries put erase
  rw [Node.erase_append held (by simp), Node.erase]

/-- A new file that is taken away leaves the files as they were. -/
theorem erase_fresh (node : Node) (fresh : name ∉ entries.map Prod.fst) :
    (world.setEntries location (entries ++ [(name, node)])).erase (location ++ [name]) = world := by
  have without : (entries ++ [(name, node)]).filter (·.1 ≠ name) = entries := by
    rw [List.filter_append, Dictionary.filter_ne_of_not_mem fresh]
    simp
  rw [erase_entry (at?_setEntries held), setEntries_setEntries held, without, setEntries_self held]

end Entries

/-! ## Paths after entries were set -/

/-- A folder is still found after it lost some of its files and got others. -/
theorem openFolder_setEntries
    {lost : String → Prop}
    (opened : world.openFolder folder = .ok (location, entries))
    (kept : Node.KeepsEntries lost entries later) :
    (world.setEntries location later).openFolder folder = .ok (location, later) := by
  rw [openFolder_eq_ok_iff] at opened ⊢
  obtain ⟨led, held⟩ := opened
  have keeps : Node.Keeps (fun place => ∃ name, place = location ++ [name]) world.root
      (world.root.put location (.folder later)) := by
    refine Node.keeps_put_folder held fun name inner found => ?_
    exact (kept name inner found).imp_right fun gone => ⟨⟨name, rfl⟩, gone.2⟩
  exact ⟨resolve_of_keeps keeps led (by simp), at?_setEntries held⟩

/-- A folder is still found after one of its files was taken away. -/
theorem openFolder_erase
    (opened : world.openFolder folder = .ok (location, entries))
    (isFile : ∀ inner, entries.lookup name = some inner →
      ∃ content mode, inner = .file content mode) :
    (world.erase (location ++ [name])).openFolder folder
      = .ok (location, entries.filter (·.1 ≠ name)) := by
  rw [erase_entry (openFolder_eq_ok_iff.mp opened).2]
  exact openFolder_setEntries opened (.filter isFile)

/-- A folder with more entries is still opened by its path. -/
theorem openFolder_append
    {more : List (String × Node)}
    (opened : world.openFolder folder = .ok (location, entries)) :
    (world.setEntries location (entries ++ more)).openFolder folder
      = .ok (location, entries ++ more) :=
  openFolder_setEntries opened (Node.KeepsEntries.append : Node.KeepsEntries (fun _ => False) _ _)

/-- A folder is as before once a new file of it was taken away. -/
theorem openFolder_erase_fresh
    {content : List UInt8}
    {mode : Mode}
    (opened : world.openFolder folder
      = .ok (location, entries ++ [(name, .file content mode)]))
    (fresh : name ∉ entries.map Prod.fst) :
    (world.erase (location ++ [name])).openFolder folder = .ok (location, entries) := by
  rw [openFolder_erase opened fun inner =>
      Node.file_of_lookup_append fresh Node.file_of_mem_singleton,
    List.filter_append, Dictionary.filter_ne_of_not_mem fresh]
  simp

/-- What a path leads to, and where. -/
def Leads (world : World) (path : String) (place : List String) (node : Node) : Prop :=
  world.resolve true path = .ok place ∧ world.root.at? place = some node

theorem Leads.find (leads : world.Leads path place node) : world.find path = .ok node := by
  simp [World.find, leads.1, leads.2, bind, Except.bind]

theorem Leads.read
    {content : List UInt8}
    {mode : Mode}
    (leads : world.Leads path place (.file content mode)) :
    world.read path = .ok content := by
  rw [World.read, leads.find]
  rfl

/-- A place that is neither a folder, if it can be opened, nor on the way to
it. -/
def Beside (world : World) (folder : String) (place : List String) : Prop :=
  ∀ location entries, world.openFolder folder = .ok (location, entries) → ¬ place <+: location

/-- What is not a folder does not lie on the way to one. -/
theorem Leads.beside_of_not_folder
    (leads : world.Leads path place node)
    (noFolder : ∀ entries, node ≠ .folder entries) :
    world.Beside folder place := by
  intro location entries opened above
  obtain ⟨before, isFolder⟩ := Node.folder_of_prefix (openFolder_eq_ok_iff.mp opened).2 above
  exact noFolder before (Option.some.inj (leads.2.symm.trans isFolder))

/-- Nothing is at a name that a folder does not have. -/
theorem Leads.ne_of_fresh
    (leads : world.Leads path place node)
    (held : world.root.at? location = some (.folder entries))
    (fresh : name ∉ entries.map Prod.fst) :
    place ≠ location ++ [name] := by
  rintro rfl
  have nothing := leads.2
  rw [Node.at?_append, held] at nothing
  simp [Node.at?, Node.entries, Dictionary.lookup_eq_none_of_not_mem fresh] at nothing

/-- A path that leads beside a folder and not to a file that the folder loses
leads to the same as before. -/
theorem Leads.setEntries
    (leads : world.Leads path place node)
    (opened : world.openFolder folder = .ok (location, entries))
    (notAbove : ¬ place <+: location)
    (kept : Node.KeepsEntries (fun name => place ≠ location ++ [name]) entries later) :
    (world.setEntries location later).Leads path place node := by
  obtain ⟨led, there⟩ := leads
  have held := (openFolder_eq_ok_iff.mp opened).2
  have keeps : Node.Keeps (fun other => place ≠ other) world.root
      (world.root.put location (.folder later)) := Node.keeps_put_folder held kept
  exact ⟨resolve_of_keeps keeps led (by simp), Node.at?_put_folder held there notAbove kept⟩

/-- A path still leads to what it led to when a file beside it is gone. -/
theorem Leads.erase
    (leads : world.Leads path place node)
    (opened : world.openFolder folder = .ok (location, entries))
    (notAbove : ¬ place <+: location)
    (apart : place ≠ location ++ [name])
    (isFile : ∀ inner, entries.lookup name = some inner →
      ∃ content mode, inner = .file content mode) :
    (world.erase (location ++ [name])).Leads path place node := by
  rw [erase_entry (openFolder_eq_ok_iff.mp opened).2]
  refine leads.setEntries opened notAbove fun other inner held => ?_
  obtain same | ⟨rfl, file⟩ := Node.KeepsEntries.filter isFile other inner held
  · exact .inl same
  · exact .inr ⟨apart, file⟩

end World

end Findings
