import Mathlib.Logic.Relation
import Findings.Proofs.Registry.Spelling

/-!
Contract: the spellings that stand for one path.

Owns:
- separators, and the steps to the same place at the front of a path;
- `Respelling`, one change of a spelling, and `Alias`, any number of them in
  either direction;
- the law that two texts are spellings of one path exactly if they have the same
  normalized form, so that `normalizePath` chooses one spelling of each path;
- registries of files whose paths are spelled in another way.

A step is seen behind a backslash as well as behind a slash, and there may be
any number of them, so a path is first taken apart into its steps and the rest.

Does not own: which spellings lead to the same file.
-/

namespace Findings

variable {c : Char} {path other separators : List Char}

/-! ## Separators -/

/-- Whether a character stands between the names of a path. -/
def isSeparator (c : Char) : Bool :=
  c == '/' || c == '\\'

theorem unifySlash_of_isSeparator (separates : isSeparator c) : unifySlash c = '/' := by
  obtain rfl | rfl : c = '/' ∨ c = '\\' := by simpa [isSeparator] using separates
  · rfl
  · rfl

theorem unifySlash_of_not_isSeparator (plain : ¬ isSeparator c) : unifySlash c = c := by
  rw [unifySlash, if_neg]
  rintro rfl
  exact plain rfl

theorem unifySlash_eq_slash_iff : unifySlash c = '/' ↔ isSeparator c := by
  constructor
  · intro same
    by_contra plain
    rw [unifySlash_of_not_isSeparator plain] at same
    subst same
    exact plain rfl
  · exact unifySlash_of_isSeparator

theorem unifySlash_eq_dot_iff : unifySlash c = '.' ↔ c = '.' := by
  constructor
  · intro same
    by_cases separates : isSeparator c
    · rw [unifySlash_of_isSeparator separates] at same
      contradiction
    · rwa [unifySlash_of_not_isSeparator separates] at same
  · rintro rfl
    rfl

/-! ## Steps to the same place -/

/-- A step to the same place for each of the separators. -/
def currentSteps (separators : List Char) : List Char :=
  separators.flatMap fun separator => ['.', separator]

/-- The form of a path that all its spellings share, as characters. -/
def normalForm (path : List Char) : List Char :=
  dropCurrent (path.map unifySlash)

theorem toList_normalizePath {path : String} :
    (normalizePath path).toList = normalForm path.toList :=
  String.toList_ofList

theorem normalizePath_eq_iff {path other : String} :
    normalizePath path = normalizePath other ↔ normalForm path.toList = normalForm other.toList := by
  rw [← String.toList_inj, toList_normalizePath, toList_normalizePath]

theorem normalForm_step (separates : isSeparator c) :
    normalForm ('.' :: c :: path) = normalForm path := by
  rw [normalForm, List.map_cons, List.map_cons, unifySlash_of_isSeparator separates]
  rfl

theorem currentSteps_cons_append :
    currentSteps (c :: separators) ++ path = '.' :: c :: (currentSteps separators ++ path) :=
  rfl

/-- Steps to the same place in front of a path are not in its form. -/
theorem normalForm_currentSteps (separate : ∀ c ∈ separators, isSeparator c) :
    normalForm (currentSteps separators ++ path) = normalForm path := by
  induction separators with
  | nil => rfl
  | cons separator more inductionHypothesis =>
    rw [currentSteps_cons_append, normalForm_step (separate separator List.mem_cons_self)]
    exact inductionHypothesis fun c member => separate c (List.mem_cons_of_mem _ member)

/-- A path is some steps to the same place and a rest without one at its front.
The rest is what its normalized form keeps, character by character. -/
theorem exists_currentSteps (path : List Char) :
    ∃ separators rest, path = currentSteps separators ++ rest
      ∧ (∀ c ∈ separators, isSeparator c)
      ∧ ¬ ['.', '/'] <+: rest.map unifySlash
      ∧ normalForm path = rest.map unifySlash := by
  -- A step takes two characters, so the induction is on the length.
  induction length : path.length using Nat.strong_induction_on generalizing path with
  | _ size inductionHypothesis =>
    by_cases step : ['.', '/'] <+: path.map unifySlash
    · -- Only a dot becomes a dot, and only a separator a slash.
      obtain ⟨dot, separator, rest, rfl, isDot, isSlash⟩ : ∃ dot separator rest,
          path = dot :: separator :: rest ∧ unifySlash dot = '.' ∧ unifySlash separator = '/' := by
        match path, step with
        | [], step => simp at step
        | [_], step => simp at step
        | dot :: separator :: rest, step =>
          obtain ⟨isDot, isSlash⟩ : '.' = unifySlash dot ∧ '/' = unifySlash separator := by
            simpa using step
          exact ⟨dot, separator, rest, rfl, isDot.symm, isSlash.symm⟩
      obtain rfl := unifySlash_eq_dot_iff.mp isDot
      have separates := unifySlash_eq_slash_iff.mp isSlash
      have shorter : rest.length < size := by
        rw [← length, List.length_cons, List.length_cons]
        omega
      obtain ⟨separators, kept, rfl, separate, noStep, form⟩ :=
        inductionHypothesis rest.length shorter rest rfl
      refine ⟨separator :: separators, kept, rfl, ?_, noStep, ?_⟩
      · simpa using ⟨separates, separate⟩
      · rw [normalForm_step separates, form]
    · exact ⟨[], path, rfl, by simp, step, dropCurrent_of_not_step step⟩

/-! ## Spellings -/

/-- One change in the spelling of a path: a step to the same place in front of it,
or another separator somewhere. -/
inductive Respelling : List Char → List Char → Prop
  | step {separator : Char} {path : List Char} (separates : isSeparator separator) :
    Respelling path ('.' :: separator :: path)
  | exchange {first second : Char} {front back : List Char}
    (separates : isSeparator first)
    (alsoSeparates : isSeparator second) :
    Respelling (front ++ first :: back) (front ++ second :: back)

/-- Two spellings of one path: each comes from the other by changes, made and
undone in any order. -/
def Alias (path other : String) : Prop :=
  Relation.EqvGen Respelling path.toList other.toList

/-- A change in the spelling of a path does not change its form. -/
theorem Respelling.normalForm_eq (change : Respelling path other) :
    normalForm path = normalForm other := by
  cases change with
  | step separates => exact (normalForm_step separates).symm
  | exchange separates alsoSeparates =>
    simp only [normalForm, List.map_append, List.map_cons, unifySlash_of_isSeparator separates,
      unifySlash_of_isSeparator alsoSeparates]

theorem eqvGen_currentSteps (separate : ∀ c ∈ separators, isSeparator c) :
    Relation.EqvGen Respelling path (currentSteps separators ++ path) := by
  induction separators with
  | nil => exact .refl path
  | cons separator more inductionHypothesis =>
    have fewer := inductionHypothesis fun c member => separate c (List.mem_cons_of_mem _ member)
    exact .trans _ _ _ fewer (.rel _ _ (.step (separate separator List.mem_cons_self)))

theorem eqvGen_map_unifySlash (front path : List Char) :
    Relation.EqvGen Respelling (front ++ path) (front ++ path.map unifySlash) := by
  -- The characters in front are in their unified form already.
  induction path generalizing front with
  | nil => exact .refl _
  | cons c path inductionHypothesis =>
    have later := inductionHypothesis (front ++ [unifySlash c])
    rw [List.append_assoc, List.append_assoc] at later
    refine .trans _ _ _ ?_ later
    by_cases separates : isSeparator c
    · rw [unifySlash_of_isSeparator separates]
      exact .rel _ _ (.exchange separates rfl)
    · rw [unifySlash_of_not_isSeparator separates]
      exact .refl _

/-- A path comes to its form by changes in its spelling. -/
theorem eqvGen_normalForm (path : List Char) :
    Relation.EqvGen Respelling path (normalForm path) := by
  obtain ⟨separators, rest, rfl, separate, -, form⟩ := exists_currentSteps path
  rw [form]
  exact .trans _ _ _ (.symm _ _ (eqvGen_currentSteps separate)) (eqvGen_map_unifySlash [] rest)

/-- Two paths have the same form exactly if changes in their spelling lead from one to
the other. -/
theorem eqvGen_respelling_iff :
    Relation.EqvGen Respelling path other ↔ normalForm path = normalForm other := by
  constructor
  · intro spelled
    induction spelled with
    | rel _ _ change => exact change.normalForm_eq
    | refl _ => rfl
    | symm _ _ _ inductionHypothesis => exact inductionHypothesis.symm
    | trans _ _ _ _ _ before after => exact before.trans after
  · intro same
    have back := (eqvGen_normalForm other).symm
    rw [← same] at back
    exact .trans _ _ _ (eqvGen_normalForm path) back

/-- The normalized form tells exactly the spellings of one path. -/
theorem alias_iff {path other : String} :
    Alias path other ↔ normalizePath path = normalizePath other :=
  eqvGen_respelling_iff.trans normalizePath_eq_iff.symm

/-- Each path is a spelling of its normalized form, which is therefore its own. -/
theorem normalizePath_normalizePath (path : String) :
    normalizePath (normalizePath path) = normalizePath path := by
  have spelled : Alias path (normalizePath path) := by
    rw [Alias, toList_normalizePath]
    exact eqvGen_normalForm path.toList
  exact (alias_iff.mp spelled).symm

instance (path other : String) : Decidable (Alias path other) :=
  decidable_of_iff _ alias_iff.symm

/-! ## Respelled files -/

variable {η : Type}

/-- The same file, with its path in another spelling. -/
structure TrackedFile.Respelled (file other : TrackedFile η) : Prop where
  path : Alias file.path other.path
  handle : file.handle = other.handle

/-- A registry does not depend on how the paths of its files are spelled. -/
theorem FileRegistry.ofFiles_respelled {files others : List (TrackedFile η)}
    (respelled : List.Forall₂ TrackedFile.Respelled files others) :
    ofFiles files = ofFiles others := by
  have entries : files.map (fun file => (normalizePath file.path, file.handle))
      = others.map (fun file => (normalizePath file.path, file.handle)) := by
    induction respelled with
    | nil => rfl
    | cons same _ inductionHypothesis =>
      rw [List.map_cons, List.map_cons, alias_iff.mp same.path, same.handle, inductionHypothesis]
  rw [ofFiles, ofFiles, entries]

/-- A file is found under any spelling of its path. -/
theorem FileRegistry.lookup_respelled {registry : FileRegistry η} {path other : String}
    (spelled : Alias path other) :
    registry.lookup path = registry.lookup other := by
  rw [lookup, lookup, get?, get?, alias_iff.mp spelled]

end Findings
