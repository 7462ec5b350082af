import Mathlib.Data.Set.Operations
import Findings.Proofs.Registry.Alias

/-!
Contract: the normalized form of a path as a canonical form.

Owns:
- `IsCanonical`, the paths without backslashes and without a step to the same
  place at the front;
- `KeepsBehind`, a form that keeps a path behind its steps, character by
  character up to the exchange of backslashes with slashes;
- `Stripping`, the loop that takes one step at each turn, and that it ends;
- the law that the normalized form is the one canonical form that keeps a path
  behind steps, and that canonical paths are those that are their own form.

The loop looks at a path whose backslashes are exchanged already, so it takes
steps that the path itself spells with a backslash.  `currentSteps` is therefore
the steps of the path as it is spelled, one for each turn.

Does not own: which spellings share a form, and what a form stands for.
-/

namespace Findings

variable {c d : Char} {path form rest left separators : List Char} {turns : Nat}

/-! ## Canonical paths -/

/-- A path with slashes only and without a step to the same place at the front. -/
structure IsCanonical (path : String) : Prop where
  noBackslash : '\\' ∉ path.toList
  noStep : ¬ ['.', '/'] <+: path.toList

theorem isCanonical_iff {path : String} :
    IsCanonical path ↔ '\\' ∉ path.toList ∧ ¬ ['.', '/'] <+: path.toList :=
  ⟨fun canonical => ⟨canonical.noBackslash, canonical.noStep⟩, fun ⟨plain, front⟩ => ⟨plain, front⟩⟩

instance (path : String) : Decidable (IsCanonical path) :=
  decidable_of_iff _ isCanonical_iff.symm

theorem IsCanonical.normalizePath_eq {path : String} (canonical : IsCanonical path) :
    normalizePath path = path := by
  rw [← String.toList_inj, toList_normalizePath, normalForm,
    map_unifySlash canonical.noBackslash, dropCurrent_of_not_step canonical.noStep]

theorem unifySlash_ne_backslash : unifySlash c ≠ '\\' := by
  by_cases isBackslash : c = '\\'
  · rw [unifySlash, if_pos isBackslash]
    decide
  · rwa [unifySlash, if_neg isBackslash]

theorem isCanonical_normalizePath (path : String) : IsCanonical (normalizePath path) := by
  obtain ⟨separators, rest, -, -, noStep, form⟩ := exists_currentSteps path.toList
  constructor
  · rw [toList_normalizePath, form, List.mem_map]
    rintro ⟨c, -, isBackslash⟩
    exact unifySlash_ne_backslash isBackslash
  · rwa [toList_normalizePath, form]

/-- Exactly the paths in canonical form are left as they are. -/
theorem normalizePath_eq_self_iff {path : String} :
    normalizePath path = path ↔ IsCanonical path := by
  constructor
  · intro own
    rw [← own]
    exact isCanonical_normalizePath path
  · exact IsCanonical.normalizePath_eq

/-! ## What a form keeps -/

/-- The same character, or a slash for a backslash. -/
def Exchanged (c d : Char) : Prop :=
  d = c ∨ c = '\\' ∧ d = '/'

/-- A form keeps all that stands in a path behind steps to the same place. -/
structure KeepsBehind (separators : List Char) (path form : String) : Prop where
  separate : ∀ c ∈ separators, isSeparator c
  kept : ∃ rest, path.toList = currentSteps separators ++ rest
    ∧ List.Forall₂ Exchanged rest form.toList

theorem exchanged_unifySlash (c : Char) : Exchanged c (unifySlash c) := by
  by_cases isBackslash : c = '\\'
  · exact .inr ⟨isBackslash, if_pos isBackslash⟩
  · exact .inl (if_neg isBackslash)

/-- A form without backslashes has a slash for each of them, and nothing else is
exchanged. -/
theorem Exchanged.eq_unifySlash (exchanged : Exchanged c d) (plain : d ≠ '\\') :
    d = unifySlash c := by
  rcases exchanged with rfl | ⟨rfl, rfl⟩
  · exact (if_neg plain).symm
  · rfl

theorem forall₂_exchanged_map (path : List Char) :
    List.Forall₂ Exchanged path (path.map unifySlash) :=
  List.forall₂_map_right_iff.mpr (List.forall₂_same.mpr fun c _ => exchanged_unifySlash c)

theorem eq_map_unifySlash
    (exchanged : List.Forall₂ Exchanged path form)
    (plain : '\\' ∉ form) :
    form = path.map unifySlash := by
  induction exchanged with
  | nil => rfl
  | cons first later inductionHypothesis =>
    have firstPlain := (List.ne_of_not_mem_cons plain).symm
    have laterPlain := List.not_mem_of_not_mem_cons plain
    rw [List.map_cons, first.eq_unifySlash firstPlain, inductionHypothesis laterPlain]

/-- There is no other canonical form that keeps a path behind steps. -/
theorem KeepsBehind.normalizePath_eq {path form : String}
    (keeps : KeepsBehind separators path form)
    (canonical : IsCanonical form) :
    normalizePath path = form := by
  obtain ⟨rest, taken, exchanged⟩ := keeps.kept
  have unified := eq_map_unifySlash exchanged canonical.noBackslash
  rw [← String.toList_inj, toList_normalizePath, taken, normalForm_currentSteps keeps.separate,
    normalForm, ← unified, dropCurrent_of_not_step canonical.noStep]

/-! ## The loop -/

/-- The loop that takes a step off the front of a path at each turn, until there
is none: the path, the number of turns, and what is left. -/
inductive Stripping : List Char → Nat → List Char → Prop
  | done {path : List Char} (noStep : ¬ ['.', '/'] <+: path) :
    Stripping path 0 path
  | turn {rest left : List Char} {turns : Nat} (later : Stripping rest turns left) :
    Stripping ('.' :: '/' :: rest) (turns + 1) left

/-- The loop takes the same number of turns however it is looked at, and leaves the same
path. -/
theorem Stripping.unique {otherTurns : Nat} {otherLeft : List Char}
    (run : Stripping path turns left)
    (other : Stripping path otherTurns otherLeft) :
    otherTurns = turns ∧ otherLeft = left := by
  induction run generalizing otherTurns with
  | done noStep =>
    cases other with
    | done => exact ⟨rfl, rfl⟩
    | turn => exact absurd ⟨_, rfl⟩ noStep
  | turn _ inductionHypothesis =>
    cases other with
    | done noStep => exact absurd ⟨_, rfl⟩ noStep
    | turn later =>
      obtain ⟨rfl, rfl⟩ := inductionHypothesis later
      exact ⟨rfl, rfl⟩

/-- The loop takes one turn for each step to the same place. -/
theorem stripping_currentSteps
    (separate : ∀ c ∈ separators, isSeparator c)
    (noStep : ¬ ['.', '/'] <+: rest.map unifySlash) :
    Stripping ((currentSteps separators ++ rest).map unifySlash) separators.length
      (rest.map unifySlash) := by
  induction separators with
  | nil => exact .done noStep
  | cons separator more inductionHypothesis =>
    -- Whatever its separator, the first step is one for the loop.
    have separates := separate separator List.mem_cons_self
    rw [currentSteps_cons_append, List.map_cons, List.map_cons,
      unifySlash_of_isSeparator separates]
    exact .turn (inductionHypothesis fun c member => separate c (List.mem_cons_of_mem _ member))

/-! ## The canonical form -/

/-- The steps of a path are taken off in as many turns, and what is left is the
canonical form that keeps the path behind them. -/
theorem exists_stripped (path : String) :
    ∃ separators, KeepsBehind separators path (normalizePath path)
      ∧ ∀ turns left, Stripping (path.toList.map unifySlash) turns left
        ↔ turns = separators.length ∧ left = (normalizePath path).toList := by
  obtain ⟨separators, rest, taken, separate, noStep, form⟩ := exists_currentSteps path.toList
  have run : Stripping (path.toList.map unifySlash) separators.length
      (normalizePath path).toList := by
    rw [toList_normalizePath, form, taken]
    exact stripping_currentSteps separate noStep
  have kept : List.Forall₂ Exchanged rest (normalizePath path).toList := by
    rw [toList_normalizePath, form]
    exact forall₂_exchanged_map rest
  refine ⟨separators, ⟨separate, rest, taken, kept⟩, fun turns left => ?_⟩
  constructor
  · exact run.unique
  · rintro ⟨rfl, rfl⟩
    exact run

/-- The normalized form is canonical.  The loop that strips a path ends after one
turn for each step at its front, and all behind these steps is kept up to the
exchange of backslashes with slashes; no other canonical form does so.  The
canonical paths are those that are left as they are, which are all the normalized
forms. -/
theorem normalizePath_canonical :
    (∀ path, IsCanonical (normalizePath path)
      ∧ ∃ separators, KeepsBehind separators path (normalizePath path)
        ∧ ∀ turns left, Stripping (path.toList.map unifySlash) turns left
          ↔ turns = separators.length ∧ left = (normalizePath path).toList)
    ∧ (∀ path form, normalizePath path = form
      ↔ IsCanonical form ∧ ∃ separators, KeepsBehind separators path form)
    ∧ (∀ path, normalizePath path = path ↔ IsCanonical path)
    ∧ Set.range normalizePath = {path | IsCanonical path}
    ∧ ∀ path, normalizePath (normalizePath path) = normalizePath path := by
  refine ⟨fun path => ⟨isCanonical_normalizePath path, exists_stripped path⟩, ?determined,
    fun _ => normalizePath_eq_self_iff, ?image, normalizePath_normalizePath⟩
  case determined =>
    intro path form
    constructor
    · rintro rfl
      obtain ⟨separators, keeps, -⟩ := exists_stripped path
      exact ⟨isCanonical_normalizePath path, separators, keeps⟩
    · rintro ⟨canonical, separators, keeps⟩
      exact keeps.normalizePath_eq canonical
  case image =>
    ext path
    constructor
    · rintro ⟨other, rfl⟩
      exact isCanonical_normalizePath other
    · intro canonical
      exact ⟨path, canonical.normalizePath_eq⟩

/-- Steps in both spellings before a root, and a step behind a name, which stays. -/
theorem normalizePath_canonical_rootBehindSteps :
    let path := ".\\././/a\\.\\b"
    let form := "/a/./b"
    KeepsBehind ['\\', '/', '/'] path form
    ∧ IsCanonical form
    ∧ normalizePath path = form
    ∧ normalizePath form = form
    ∧ ∃ turns, Stripping (path.toList.map unifySlash) turns form.toList := by
  intro path form
  have keeps : KeepsBehind ['\\', '/', '/'] path form := by
    refine ⟨by simp [isSeparator], ['/', 'a', '\\', '.', '\\', 'b'], by decide, ?_⟩
    simp [form, Exchanged]
  have canonical : IsCanonical form := by
    decide
  obtain ⟨stripped, determined, own, -, -⟩ := normalizePath_canonical
  have normalized : normalizePath path = form := (determined path form).mpr ⟨canonical, _, keeps⟩
  obtain ⟨-, separators, -, ends⟩ := stripped path
  refine ⟨keeps, canonical, normalized, (own form).mpr canonical, separators.length, ?_⟩
  exact (ends _ _).mpr ⟨rfl, by rw [normalized]⟩

end Findings
