import Findings.Files.Node
import Findings.Proofs.Dictionary

/-!
Contract: one folder of a tree, given other entries.

Owns:
- what is below a location once a node is put there, and everywhere else;
- a change at a longer location as a change of the entries of the folder on the
  way;
- the entries of a folder after one more is put at their end, and after that one
  is taken away again.

Does not own: paths, which may lead through links.
-/

namespace Findings

namespace Node

variable {node inner new other : Node} {location more : List String} {name : String}

/-! ## What is on the way -/

theorem at?_append :
    node.at? (location ++ more) = (node.at? location).bind (·.at? more) := by
  induction location generalizing node with
  | nil => rfl
  | cons name rest inductionHypothesis =>
    simp only [List.cons_append, at?]
    cases node.entries.lookup name with
    | none => rfl
    | some next => exact inductionHypothesis

/-- Whatever is found below a name is in a folder that has the name. -/
theorem folder_of_at?_cons (found : node.at? (name :: more) = some inner) :
    ∃ entries next,
      node = folder entries ∧ entries.lookup name = some next ∧ next.at? more = some inner := by
  rw [at?] at found
  split at found
  case h_1 next held =>
    cases node with
    | folder entries => exact ⟨entries, next, rfl, held, found⟩
    | file | link | device => simp [entries] at held
  case h_2 => simp at found

theorem at?_file_cons {content : List UInt8} {mode : Mode} :
    (file content mode).at? (name :: more) = none := by
  simp [at?, entries]

/-! ## Changes below a location -/

/-- A node is put at a location by putting a changed folder on the way to it. -/
theorem put_append (found : node.at? location = some inner) :
    node.put (location ++ more) new = node.put location (inner.put more new) := by
  induction location generalizing node with
  | nil =>
    obtain rfl : node = inner := by simpa [at?] using found
    simp [put]
  | cons name rest inductionHypothesis =>
    obtain ⟨entries, next, rfl, held, below⟩ := folder_of_at?_cons found
    simp only [List.cons_append, put, held, Option.getD_some, inductionHypothesis below]

theorem erase_append (found : node.at? location = some inner) (proper : more ≠ []) :
    node.erase (location ++ more) = node.put location (inner.erase more) := by
  induction location generalizing node with
  | nil =>
    obtain rfl : node = inner := by simpa [at?] using found
    simp [put]
  | cons first rest inductionHypothesis =>
    obtain ⟨entries, next, rfl, held, below⟩ := folder_of_at?_cons found
    have longer : rest ++ more ≠ [] := by simp [proper]
    obtain ⟨second, further, same⟩ := List.exists_cons_of_ne_nil longer
    simp only [List.cons_append, put, held, Option.getD_some, ← inductionHypothesis below, same,
      erase]

/-- A node that is put where it is already changes nothing. -/
theorem put_at? (found : node.at? location = some inner) : node.put location inner = node := by
  induction location generalizing node with
  | nil =>
    obtain rfl : node = inner := by simpa [at?] using found
    rfl
  | cons name rest inductionHypothesis =>
    obtain ⟨entries, next, rfl, held, below⟩ := folder_of_at?_cons found
    simp only [put, held, Option.getD_some, inductionHypothesis below]
    rw [Dictionary.put_lookup held]

/-- Of two nodes that are put at a location the later one stays. -/
theorem put_put (found : node.at? location = some inner) :
    (node.put location new).put location other = node.put location other := by
  induction location generalizing node with
  | nil => rfl
  | cons name rest inductionHypothesis =>
    obtain ⟨entries, next, rfl, held, below⟩ := folder_of_at?_cons found
    simp only [put, held, Option.getD_some, Dictionary.lookup_put, if_pos,
      inductionHypothesis below, Dictionary.put_put]

/-! ## Looking up after a change -/

/-- What is below a node that was put is what the node has there. -/
theorem at?_put_append
    (new : Node)
    (more : List String)
    (found : node.at? location = some inner) :
    (node.put location new).at? (location ++ more) = new.at? more := by
  induction location generalizing node with
  | nil => rfl
  | cons name rest inductionHypothesis =>
    obtain ⟨entries, next, rfl, held, below⟩ := folder_of_at?_cons found
    simp only [put, held, Option.getD_some, List.cons_append, at?, Node.entries,
      Dictionary.lookup_put, if_pos]
    exact inductionHypothesis below

theorem at?_put_self (new : Node) (found : node.at? location = some inner) :
    (node.put location new).at? location = some new := by
  have below := at?_put_append new [] found
  rwa [List.append_nil] at below

/-- Neither a location above nor one below: nothing changes there. -/
theorem at?_put_of_apart
    {place : List String}
    (found : node.at? location = some inner)
    (notBelow : ¬ location <+: place)
    (notAbove : ¬ place <+: location) :
    (node.put location new).at? place = node.at? place := by
  induction location generalizing node place with
  | nil => exact absurd List.nil_prefix notBelow
  | cons name rest inductionHypothesis =>
    obtain ⟨entries, next, rfl, held, below⟩ := folder_of_at?_cons found
    cases place with
    | nil => exact absurd List.nil_prefix notAbove
    | cons first further =>
      simp only [put, held, Option.getD_some, at?, Node.entries, Dictionary.lookup_put]
      by_cases same : first = name
      · subst same
        rw [List.prefix_cons_inj] at notBelow notAbove
        simpa [held] using inductionHypothesis below notBelow notAbove
      · rw [if_neg same]

/-- On the way to a folder there are folders. -/
theorem folder_of_prefix
    {place : List String}
    {entries : List (String × Node)}
    (found : node.at? location = some (folder entries))
    (above : place <+: location) :
    ∃ before, node.at? place = some (folder before) := by
  obtain ⟨between, rfl⟩ := above
  rw [at?_append] at found
  obtain ⟨middle, there, below⟩ := Option.bind_eq_some_iff.mp found
  cases between with
  | nil => exact ⟨entries, by simpa [at?] using there.trans below⟩
  | cons first further =>
    obtain ⟨before, next, rfl, -, -⟩ := folder_of_at?_cons below
    exact ⟨before, there⟩

/-- What was taken away is not there, whatever was there before. -/
theorem at?_erase_self (proper : location ≠ []) : (node.erase location).at? location = none := by
  induction location generalizing node with
  | nil => contradiction
  | cons name rest inductionHypothesis =>
    cases node with
    | file | link | device => cases rest <;> rfl
    | folder entries =>
      cases rest with
      | nil =>
        have gone : name ∉ (entries.filter (·.1 ≠ name)).map Prod.fst := by simp
        rw [erase, at?, Node.entries, Dictionary.lookup_eq_none_of_not_mem gone]
      | cons second further =>
        rw [erase.eq_2 _ _ _ (by simp)]
        cases held : entries.lookup name with
        | none => simp only [at?, Node.entries, held]
        | some next =>
          simp only [at?, Node.entries, Dictionary.lookup_put, if_pos]
          exact inductionHypothesis (by simp)

end Node

end Findings
