import Findings.Proofs.Registry.Spelling

/-!
Contract: a registry after any calls, beside the list of the files that were
entered.

Owns:
- `RegistryCall`, anything that is done with a registry or asked of it;
- `FileHistory`, the files of the last list with those that were inserted since,
  which forgets no file, and its answers;
- the law that a registry gives the answers of its history.

A registry forgets a file when another spelling of its path is entered.  Its
history keeps both, and the later one answers.

Does not own: which spellings normalize alike.
-/

namespace Findings

variable {η : Type}

/-! ## Calls -/

/-- What is done with a registry, or asked of it. -/
inductive RegistryCall (η : Type) where
  /-- The registry is made anew, of a list of files. -/
  | ofFiles (files : List (TrackedFile η))
  | insert (path : String) (handle : η)
  | get (path : String)
  | lookup (path : String)
  | size
  | isEmpty
deriving DecidableEq, Repr

inductive RegistryReply (η : Type) where
  | done
  | handle (found : Option η)
  | entry (found : Option (String × η))
  | count (files : Nat)
  | verdict (isSo : Bool)
deriving DecidableEq, Repr

namespace FileRegistry

def after (registry : FileRegistry η) : RegistryCall η → FileRegistry η
  | .ofFiles files => .ofFiles files
  | .insert path handle => registry.insert path handle
  | .get _ | .lookup _ | .size | .isEmpty => registry

def reply (registry : FileRegistry η) : RegistryCall η → RegistryReply η
  | .ofFiles _ | .insert .. => .done
  | .get path => .handle (registry.get? path)
  | .lookup path => .entry (registry.lookup path)
  | .size => .count registry.size
  | .isEmpty => .verdict registry.isEmpty

def replies (registry : FileRegistry η) : List (RegistryCall η) → List (RegistryReply η)
  | [] => []
  | call :: later => registry.reply call :: (registry.after call).replies later

end FileRegistry

/-! ## Histories -/

/-- The files that were entered, the latest last. -/
abbrev FileHistory (η : Type) := List (TrackedFile η)

namespace FileHistory

/-- The history after a call: a new list puts an end to what was entered before. -/
def after (history : FileHistory η) : RegistryCall η → FileHistory η
  | .ofFiles files => files
  | .insert path handle => history ++ [⟨path, handle⟩]
  | .get _ | .lookup _ | .size | .isEmpty => history

/-- The latest file whose path normalizes like a path. -/
def latest? (history : FileHistory η) (path : String) : Option (TrackedFile η) :=
  (history.filter fun file => normalizePath file.path = normalizePath path).getLast?

def size (history : FileHistory η) : Nat :=
  (history.map fun file => normalizePath file.path).toFinset.card

def reply (history : FileHistory η) : RegistryCall η → RegistryReply η
  | .ofFiles _ | .insert .. => .done
  | .get path => .handle ((history.latest? path).map TrackedFile.handle)
  | .lookup path =>
    .entry ((history.latest? path).map fun file => (normalizePath path, file.handle))
  | .size => .count history.size
  | .isEmpty => .verdict (history.size == 0)

def replies (history : FileHistory η) : List (RegistryCall η) → List (RegistryReply η)
  | [] => []
  | call :: later => history.reply call :: (history.after call).replies later

variable {history : FileHistory η} {path : String}

theorem latest?_eq_find? :
    history.latest? path
      = history.reverse.find? fun file => normalizePath file.path = normalizePath path := by
  rw [latest?, ← List.head?_reverse, ← List.filter_reverse, List.head?_filter]

theorem latest?_eq_none_iff :
    history.latest? path = none
      ↔ ∀ file ∈ history, normalizePath file.path ≠ normalizePath path := by
  simp [latest?]

end FileHistory

/-! ## The registry of a history -/

theorem Dictionary.find?_entries {α : Type} {dictionary : Dictionary α} {key : String} :
    dictionary.entries.find? (fun entry => entry.1 = key)
      = (dictionary.get? key).map fun value => (key, value) := by
  rw [get?]
  induction dictionary.entries with
  | nil => rfl
  | cons entry more inductionHypothesis =>
    by_cases same : entry.1 = key
    · subst same
      rw [List.find?_cons_of_pos (by simp), List.lookup_cons, beq_self_eq_true]
      rfl
    · have apart : (key == entry.1) = false := by simpa using Ne.symm same
      rw [List.find?_cons_of_neg (by simpa using same), inductionHypothesis,
        List.lookup_cons, apart]

namespace FileRegistry

variable {history : FileHistory η} {call : RegistryCall η} {calls : List (RegistryCall η)}
  {registry : FileRegistry η} {path : String}

/-- A registry finds the entry that it holds under the normalized path. -/
theorem lookup_eq_find? :
    registry.lookup path
      = registry.files.entries.find? fun entry => entry.1 = normalizePath path :=
  Dictionary.find?_entries.symm

theorem isEmpty_iff : registry.isEmpty ↔ registry.size = 0 := by
  rw [isEmpty, List.isEmpty_iff, size, Dictionary.size, List.length_eq_zero_iff]

theorem ofFiles_append {handle : η} :
    ofFiles (history ++ [⟨path, handle⟩]) = (ofFiles history).insert path handle := by
  simp [ofFiles, insert, Dictionary.ofList, Dictionary.insertAll]

/-- A list of files is entered as if they came one by one. -/
theorem ofFiles_eq_foldl (files : List (TrackedFile η)) :
    ofFiles files = files.foldl (fun registry file => registry.insert file.path file.handle)
      empty := by
  induction files using List.reverseRecOn with
  | nil => rfl
  | append_singleton files file inductionHypothesis =>
    rw [ofFiles_append, inductionHypothesis, List.foldl_concat]

/-! ### One call -/

/-- A registry finds the file that was entered last under any spelling of the path. -/
theorem get?_ofFiles_eq_latest? :
    (ofFiles history).get? path = (history.latest? path).map TrackedFile.handle := by
  rw [get?_ofFiles, FileHistory.latest?_eq_find?]

/-- A registry answers a call as the history of its files does. -/
theorem reply_ofFiles : (ofFiles history).reply call = history.reply call := by
  cases call with
  | ofFiles | insert => rfl
  | get path => rw [reply, get?_ofFiles_eq_latest?, FileHistory.reply]
  | lookup path =>
    rw [reply, lookup, get?_ofFiles_eq_latest?, Option.map_map]
    rfl
  | size =>
    rw [reply, size_ofFiles]
    rfl
  | isEmpty =>
    have same : (ofFiles history).isEmpty = (history.size == 0) := by
      rw [Bool.eq_iff_iff, isEmpty_iff, size_ofFiles, beq_iff_eq]
      rfl
    rw [reply, same, FileHistory.reply]

/-- A call changes a registry as it changes the history of its files. -/
theorem after_ofFiles : (ofFiles history).after call = ofFiles (history.after call) := by
  cases call with
  | insert path handle => exact ofFiles_append.symm
  | ofFiles | get | lookup | size | isEmpty => rfl

/-! ### Any calls -/

/-- A registry answers any calls as the history of its files does. -/
theorem replies_ofFiles : (ofFiles history).replies calls = history.replies calls := by
  induction calls generalizing history with
  | nil => rfl
  | cons call later inductionHypothesis =>
    rw [replies, FileHistory.replies, reply_ofFiles, after_ofFiles, inductionHypothesis]

theorem foldl_after_ofFiles :
    calls.foldl after (ofFiles history) = ofFiles (calls.foldl FileHistory.after history) := by
  induction calls generalizing history with
  | nil => rfl
  | cons call later inductionHypothesis =>
    rw [List.foldl_cons, List.foldl_cons, after_ofFiles, inductionHypothesis]

/-- A registry is the map of its history.  To any calls it gives the answers of the
files entered so far: those of the last list and those inserted since.  A path has
the handle of the latest file whose path normalizes alike, and none only if there
is no such file; the entry that is found for it is the one held under its normalized
form; as many files are counted as there are normalized paths.  A list of files is
entered as if they came one by one. -/
theorem answers_as_history (calls : List (RegistryCall η)) :
    let registry : FileRegistry η := calls.foldl after empty
    let history : FileHistory η := calls.foldl FileHistory.after []
    empty.replies calls = FileHistory.replies [] calls
      ∧ registry = ofFiles history
      ∧ (∀ path,
        registry.get? path = (history.latest? path).map TrackedFile.handle
        ∧ (registry.get? path = none
          ↔ ∀ file ∈ history, normalizePath file.path ≠ normalizePath path)
        ∧ registry.lookup path = (registry.get? path).map (normalizePath path, ·)
        ∧ registry.lookup path
          = registry.files.entries.find? fun entry => entry.1 = normalizePath path)
      ∧ registry.size = (history.map fun file => normalizePath file.path).toFinset.card
      ∧ (registry.isEmpty ↔ registry.size = 0)
      ∧ ∀ files : List (TrackedFile η),
        ofFiles files
          = files.foldl (fun registry file => registry.insert file.path file.handle) empty := by
  intro registry history
  have start : empty = ofFiles ([] : FileHistory η) := rfl
  have same : registry = ofFiles history := by
    simp only [registry, history, start, foldl_after_ofFiles]
  refine ⟨?replies, same, fun path => ⟨?get, ?none, rfl, lookup_eq_find?⟩, ?size, isEmpty_iff,
    ofFiles_eq_foldl⟩
  case replies => rw [start, replies_ofFiles]
  case get => rw [same, get?_ofFiles_eq_latest?]
  case none =>
    rw [same, get?_ofFiles_eq_latest?, Option.map_eq_none_iff, FileHistory.latest?_eq_none_iff]
  case size => rw [same, size_ofFiles]

/-- Two spellings of one path and a second path, and a new list after them. -/
example :
    empty.replies [.insert "a.go" 1, .insert ".\\a.go" 2, .insert "b.go" 3, .get "./a.go", .size,
        .ofFiles [⟨"c.go", 4⟩], .lookup "a.go", .lookup "././c.go", .isEmpty]
      = [.done, .done, .done, .handle (some 2), .count 2,
        .done, .entry none, .entry (some ("c.go", 4)), .verdict false] := by
  decide

end FileRegistry

end Findings
