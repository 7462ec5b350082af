import Findings.Proofs.Registry.Alias

/-!
Contract: the places that the spellings of a path stand for.

Owns:
- the components of a path, and whether it starts at a root;
- the law that paths with the same normalized form have the same components;
- the paths whose normalized form starts at a root although they do not: those
  that go on with a separator behind a step to the same place.

A path such as `.//a` is relative, and without its step it starts at a root.  So
it has the normalized form of `/a`, and a registry takes the two for one.

Does not own: links, and what is found at a place.
-/

namespace Findings

variable {c : Char} {path other separators : List Char}

/-! ## Components -/

/-- The names between separators, without empty ones and without steps to the
same place. -/
def componentsIn (path : List Char) : List (List Char) :=
  (path.splitOnP isSeparator).filter fun name => name ≠ [] ∧ name ≠ ['.']

def components (path : String) : List (List Char) :=
  componentsIn path.toList

theorem isSeparator_unifySlash : isSeparator (unifySlash c) = isSeparator c := by
  by_cases separates : isSeparator c
  · rw [unifySlash_of_isSeparator separates, separates]
    rfl
  · rw [unifySlash_of_not_isSeparator separates]

theorem splitOnP_map_unifySlash :
    (path.map unifySlash).splitOnP isSeparator = path.splitOnP isSeparator := by
  induction path with
  | nil => rfl
  | cons c path inductionHypothesis =>
    rw [List.map_cons, List.splitOnP_cons_eq_if_modifyHead,
      List.splitOnP_cons_eq_if_modifyHead, inductionHypothesis, isSeparator_unifySlash]
    by_cases separates : isSeparator c
    · rw [if_pos separates, if_pos separates]
    · rw [if_neg separates, if_neg separates, unifySlash_of_not_isSeparator separates]

theorem componentsIn_step (separates : isSeparator c) :
    componentsIn ('.' :: c :: path) = componentsIn path := by
  have dot : ¬ isSeparator '.' := by decide
  simp [componentsIn, List.splitOnP_cons_eq_if_modifyHead, dot, separates]

theorem componentsIn_currentSteps (separate : ∀ c ∈ separators, isSeparator c) :
    componentsIn (currentSteps separators ++ path) = componentsIn path := by
  induction separators with
  | nil => rfl
  | cons separator more inductionHypothesis =>
    rw [currentSteps_cons_append, componentsIn_step (separate separator List.mem_cons_self)]
    exact inductionHypothesis fun c member => separate c (List.mem_cons_of_mem _ member)

/-- The form of a path has the components of the path. -/
theorem components_normalizePath (path : String) :
    components (normalizePath path) = components path := by
  obtain ⟨separators, rest, taken, separate, -, form⟩ := exists_currentSteps path.toList
  rw [components, components, toList_normalizePath, form, taken,
    componentsIn_currentSteps separate, componentsIn, componentsIn, splitOnP_map_unifySlash]

/-! ## Roots -/

def isRooted (path : String) : Bool :=
  path.toList.head?.any isSeparator

/-- A path that goes on with a separator behind steps to the same place. -/
def RootBehindSteps (path : String) : Prop :=
  ∃ separators separator rest, separators ≠ []
    ∧ (∀ c ∈ separators, isSeparator c)
    ∧ isSeparator separator
    ∧ path.toList = currentSteps separators ++ separator :: rest

theorem isRooted_iff {path : String} :
    isRooted path ↔ ∃ separator rest, isSeparator separator ∧ path.toList = separator :: rest := by
  rw [isRooted]
  cases path.toList with
  | nil => simp
  | cons first rest => simp

theorem normalForm_of_isSeparator (separates : isSeparator c) :
    normalForm (c :: path) = '/' :: path.map unifySlash := by
  rw [normalForm, List.map_cons, unifySlash_of_isSeparator separates, dropCurrent_of_not_step]
  simp

theorem RootBehindSteps.not_isRooted {path : String} (behind : RootBehindSteps path) :
    ¬ isRooted path := by
  obtain ⟨_ | ⟨first, more⟩, separator, rest, given, -, -, taken⟩ := behind
  · contradiction
  · rw [isRooted, taken]
    exact Bool.false_ne_true

/-- The normalized form starts at a root if the path does, or if it does behind
its steps. -/
theorem isRooted_normalizePath {path : String} :
    isRooted (normalizePath path) ↔ isRooted path ∨ RootBehindSteps path := by
  constructor
  · intro rooted
    obtain ⟨separators, rest, taken, separate, -, form⟩ := exists_currentSteps path.toList
    rw [isRooted, toList_normalizePath, form] at rooted
    -- The form starts as the rest does, which is the path itself if there are no steps.
    cases rest with
    | nil => simp at rooted
    | cons separator more =>
      have separates : isSeparator separator := by
        simpa [isSeparator_unifySlash] using rooted
      cases separators with
      | nil => exact .inl (isRooted_iff.mpr ⟨separator, more, separates, taken⟩)
      | cons first further =>
        exact .inr ⟨first :: further, separator, more, by simp, separate, separates, taken⟩
  · rintro (rooted | ⟨separators, separator, rest, -, separate, separates, taken⟩)
    · obtain ⟨separator, rest, separates, taken⟩ := isRooted_iff.mp rooted
      rw [isRooted, toList_normalizePath, taken, normalForm_of_isSeparator separates]
      rfl
    · rw [isRooted, toList_normalizePath, taken, normalForm_currentSteps separate,
        normalForm_of_isSeparator separates]
      rfl

/-- Exactly these paths start at a root in their form and not as they are spelled. -/
theorem rootBehindSteps_iff {path : String} :
    RootBehindSteps path ↔ ¬ isRooted path ∧ isRooted (normalizePath path) := by
  constructor
  · intro behind
    exact ⟨behind.not_isRooted, isRooted_normalizePath.mpr (.inr behind)⟩
  · rintro ⟨relative, rooted⟩
    exact (isRooted_normalizePath.mp rooted).resolve_left relative

instance (path : String) : Decidable (RootBehindSteps path) :=
  decidable_of_iff _ rootBehindSteps_iff.symm

/-! ## Paths that are taken for one -/

/-- Two paths have the same components, and start at a root alike exactly if both
or neither have a root behind steps. -/
structure SamePlaceUpToRoot (path other : String) : Prop where
  components : components path = components other
  root : (isRooted path ↔ isRooted other) ↔ (RootBehindSteps path ↔ RootBehindSteps other)

/-- Paths of the same form have the same components, and only the root may differ. -/
theorem samePlaceUpToRoot_of_normalizePath_eq {path other : String}
    (same : normalizePath path = normalizePath other) : SamePlaceUpToRoot path other where
  components := by
    rw [← components_normalizePath path, same, components_normalizePath]
  root := by
    have shared : isRooted path ∨ RootBehindSteps path
        ↔ isRooted other ∨ RootBehindSteps other := by
      rw [← isRooted_normalizePath, same, isRooted_normalizePath]
    have apart := @RootBehindSteps.not_isRooted path
    have otherApart := @RootBehindSteps.not_isRooted other
    tauto

/-- What a registry takes for one.  Paths with the same normalized form have the
same components, and both start at a root or neither does, unless one of the two
alone has a root behind steps.  These are exactly the relative paths that share
their form with one that starts at a root.  So the file that a look-up finds has
the components of the path that it is looked up by. -/
theorem registry_keeps_components_apart {η : Type} (files : List (TrackedFile η)) :
    (∀ path other, normalizePath path = normalizePath other → SamePlaceUpToRoot path other)
    ∧ (∀ path, RootBehindSteps path
      ↔ ¬ isRooted path
        ∧ ∃ rooted, isRooted rooted ∧ normalizePath rooted = normalizePath path)
    ∧ ∀ spelling key handle,
        (FileRegistry.ofFiles files).lookup spelling = some (key, handle) →
          ∃ file ∈ files, file.handle = handle ∧ SamePlaceUpToRoot file.path spelling := by
  refine ⟨fun _ _ => samePlaceUpToRoot_of_normalizePath_eq, ?exact, ?found⟩
  case exact =>
    intro path
    constructor
    · intro behind
      refine ⟨behind.not_isRooted, normalizePath path, ?_, normalizePath_normalizePath path⟩
      exact isRooted_normalizePath.mpr (.inr behind)
    · rintro ⟨relative, rooted, starts, same⟩
      refine rootBehindSteps_iff.mpr ⟨relative, ?_⟩
      rw [← same]
      exact isRooted_normalizePath.mpr (.inl starts)
  case found =>
    intro spelling key handle found
    rw [FileRegistry.lookup, FileRegistry.get?_ofFiles, Option.map_map,
      Option.map_eq_some_iff] at found
    obtain ⟨file, known, named⟩ := found
    obtain ⟨-, rfl⟩ : normalizePath spelling = key ∧ file.handle = handle := by
      simpa using named
    refine ⟨file, ?_, rfl, ?_⟩
    · exact List.mem_reverse.mp (List.mem_of_find?_eq_some known)
    · exact samePlaceUpToRoot_of_normalizePath_eq (by simpa using List.find?_some known)

/-- A relative path without a root behind steps finds the file that is tracked
under a relative path, and not the one of the same components at a root. -/
theorem registry_keeps_components_apart_twoRoots :
    let files : List (TrackedFile Nat) := [⟨"abs/./a.go", 1⟩, ⟨"/abs/./a.go", 2⟩]
    (FileRegistry.ofFiles files).lookup ".\\abs\\.\\a.go" = some ("abs/./a.go", 1)
    ∧ ∃ file ∈ files, file.handle = 1
      ∧ components file.path = [['a', 'b', 's'], ['a', '.', 'g', 'o']]
      ∧ ¬ isRooted file.path := by
  intro files
  have found : (FileRegistry.ofFiles files).lookup ".\\abs\\.\\a.go" = some ("abs/./a.go", 1) := by
    decide
  have plain : ∀ file ∈ files, ¬ RootBehindSteps file.path := by
    decide
  obtain ⟨file, known, named, same⟩ := (registry_keeps_components_apart files).2.2 _ _ _ found
  have rooted := same.root.mpr (iff_of_false (plain file known) (by decide))
  exact ⟨found, file, known, named, same.components.trans (by decide), rooted.not.mpr (by decide)⟩

/-- A relative path that a registry takes for one that starts at a root. -/
theorem separator_behind_step_taken_for_root :
    normalizePath ".//abs/a.go" = normalizePath "/abs/a.go"
    ∧ ¬ isRooted ".//abs/a.go"
    ∧ isRooted "/abs/a.go"
    ∧ (FileRegistry.ofFiles [⟨"/abs/a.go", 1⟩]).lookup ".//abs/a.go" = some ("/abs/a.go", 1) := by
  decide

end Findings
