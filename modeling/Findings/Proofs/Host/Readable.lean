import Findings.Proofs.Files.Below
import Findings.Proofs.Host.Scan

/-!
Contract: a scan of a tree whose paths the system takes.

Owns:
- `World.StartsAt`, the tree that a scan of a path goes through;
- `Node.Readable`, a tree all of whose paths are short enough for the system;
- the law that a scan of such a tree comes to an end, with the files and their
  contents as they are in the tree.

Links below the start are no files.  At the start a link counts for the folder that
it leads to; a link to anything else stands for itself, and nothing is tracked.

Does not own: the names of the files that are tracked.
-/

namespace Findings

variable {world : World} {node : Node} {language top : String} {suffixes : List String}
  {style : PathStyle} {names place : List String}

/-! ## Where a scan starts -/

/-- The tree that a scan of a path goes through, if the path itself, seen without
following it, is at a place. -/
inductive World.StartsAt (world : World) (top : String) (place : List String) : Node → Prop where
  /-- Whatever is there, unless it is a link. -/
  | here
      {node : Node}
      (led : world.resolve false top = .ok place)
      (there : world.root.at? place = some node)
      (noLink : ∀ target, node ≠ .link target) :
      StartsAt world top place node
  /-- The folder that a link leads to. -/
  | behindLink
      {target : String}
      {location : List String}
      {entries : List (String × Node)}
      (led : world.resolve false top = .ok place)
      (there : world.root.at? place = some (.link target))
      (leads : world.Leads top location (.folder entries)) :
      StartsAt world top place (.folder entries)
  /-- A link that leads to anything else. -/
  | link
      {target : String}
      {location : List String}
      {node : Node}
      (led : world.resolve false top = .ok place)
      (there : world.root.at? place = some (.link target))
      (leads : world.Leads top location node)
      (noFolder : ∀ entries, node ≠ .folder entries) :
      StartsAt world top place (.link target)

theorem World.StartsAt.scanned_eq (starts : world.StartsAt top place node) :
    world.scanned top = .ok node := by
  cases starts with
  | here led there noLink =>
    cases node with
    | link target => exact absurd rfl (noLink target)
    | file | device | folder => simp [scanned, led, there, bind, Except.bind]
  | behindLink led there leads => simp [scanned, led, there, leads.find, bind, Except.bind]
  | link led there leads noFolder =>
    rename_i inner
    cases inner with
    | folder entries => exact absurd rfl (noFolder entries)
    | file | device | link => simp [scanned, led, there, leads.find, bind, Except.bind]

/-- What a scan starts from is found at its path, unless it is a link. -/
theorem World.StartsAt.exists_leads
    (starts : world.StartsAt top place node)
    (noLink : ∀ target, node ≠ .link target) :
    ∃ base, world.Leads top base node := by
  cases starts with
  | here led there => exact ⟨place, leads_of_resolve led there noLink⟩
  | behindLink led there leads => exact ⟨_, leads⟩
  | link => exact absurd rfl (noLink _)

/-- The paths of all files and folders of a tree are short enough for the system. -/
def Node.Readable (node : Node) (top : String) : Prop :=
  ∀ stop ∈ node.stops [], (belowPath top stop.names).utf8ByteSize ≤ World.maxPathSize

instance : Decidable (node.Readable top) :=
  inferInstanceAs (Decidable (∀ stop ∈ node.stops [], _))

/-- The content of the file at a place, if there is one. -/
def Node.contentAt (node : Node) (names : List String) : List UInt8 :=
  match node.at? names with
  | some (.file content _) => content
  | _ => []

/-- The path of a file or folder of a readable tree leads there. -/
theorem World.StartsAt.leads_belowPath
    {inner : Node}
    {stop : Stop}
    (starts : world.StartsAt top place node)
    (named : node.WellNamed)
    (readable : node.Readable top)
    (there : node.at? names = some inner)
    (listed : inner.stop? names = some stop) :
    ∃ base, world.Leads (belowPath top names) (base ++ names) inner := by
  have solid : ∀ target, inner ≠ .link target := by
    rintro target rfl
    cases listed
  have start : ∀ target, node ≠ .link target := by
    rintro target rfl
    cases names with
    | nil => exact solid target (Option.some.inj there).symm
    | cons name more => simp [Node.at?, Node.entries] at there
  obtain ⟨base, leads⟩ := starts.exists_leads start
  have short := readable stop ((Node.mem_stops_iff named).mpr ⟨names, inner, there, listed⟩)
  rw [Node.names_of_stop? listed] at short
  exact ⟨base, leads.belowPath named there solid short⟩

/-- What a scan starts from is a part of the tree. -/
theorem World.wellNamed_scanned
    (named : world.root.WellNamed)
    (started : world.scanned top = .ok node) :
    node.WellNamed := by
  unfold scanned at started
  cases led : world.resolve false top with
  | error fault => simp [led, bind, Except.bind] at started
  | ok place =>
    simp only [led, bind, Except.bind] at started
    split at started
    case h_1 target there =>
      cases found : world.find top with
      | error fault => simp [found] at started
      | ok inner =>
        simp only [found] at started
        split at started
        · cases started
          obtain ⟨further, -, held⟩ := find_eq_ok found
          exact named.at? held
        · cases started
          exact named.at? there
    case h_2 there =>
      cases started
      exact named.at? there
    case h_3 => cases started

/-! ## What a scan comes to -/

namespace RecordingHost

variable {state : RecordingHost}

/-- A file of a tree, tracked with the number of lines that it has there. -/
def trackFrom (node : Node) (style : PathStyle) (top : String) (state : RecordingHost)
    (names : List String) : RecordingHost :=
  state.trackLines (trackedPath style top names) (lineCount (node.contentAt names))

section Readable

variable (starts : world.StartsAt top place node) (named : node.WellNamed)
  (readable : node.Readable top)
include starts named readable

/-- In a tree whose paths are short enough a visit never fails. -/
theorem visit_eq {stop : Stop} (listed : stop ∈ node.stops []) :
    visit world top suffixes style state stop
      = .ok ((stop.tracked? top suffixes).elim state (trackFrom node style top state)) := by
  obtain ⟨names, inner, there, same⟩ := (Node.mem_stops_iff named).mp listed
  obtain ⟨base, leads⟩ := starts.leads_belowPath named readable there same
  cases inner with
  | file content mode =>
    obtain rfl : Stop.file names = stop := Option.some.inj same
    have held : node.contentAt names = content := by simp [Node.contentAt, there]
    by_cases chosen : hasSuffix suffixes (belowPath top names) <;>
      simp [visit, Stop.tracked?, trackFrom, chosen, leads.read, held]
  | folder entries =>
    obtain rfl : Stop.folder names = stop := Option.some.inj same
    simp [visit, Stop.tracked?, leads.find]
  | link | device => cases same

/-- Visits one after another track the files with a suffix, in order. -/
theorem foldlM_visit_eq {stops : List Stop} (within : stops ⊆ node.stops []) :
    stops.foldlM (visit world top suffixes style) state
      = .ok ((stops.filterMap (Stop.tracked? top suffixes)).foldl (trackFrom node style top)
          state) := by
  induction stops generalizing state with
  | nil => rfl
  | cons stop more inductionHypothesis =>
    obtain ⟨first, rest⟩ := List.cons_subset.mp within
    rw [List.foldlM_cons, visit_eq starts named readable first]
    refine (inductionHypothesis rest).trans ?_
    cases own : stop.tracked? top suffixes <;> simp [own]

/-- A scan of a readable tree comes to an end, and tracks the files one by one. -/
theorem scan_eq :
    scan world language top suffixes style
      = .ok ((node.tracked top suffixes).foldl (trackFrom node style top)
          (ofLanguage language)) := by
  rw [scan, starts.scanned_eq]
  exact foldlM_visit_eq starts named readable (List.Subset.refl _)

end Readable

end RecordingHost

end Findings
