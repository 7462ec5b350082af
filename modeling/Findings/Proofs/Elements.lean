import Mathlib.Data.List.Forall2

/-!
Contract: lists that are read or written element by element.

Owns:
- what is read from a list, in terms of what is read from each element;
- a list of written elements as the writing of one list.

Does not own: what the elements are.
-/

namespace Findings

variable {α β : Type} {elements : List β} {values : List α}

/-! ## Reading -/

/-- A list is read exactly if each of its elements is. -/
theorem mapM_eq_some_iff {read? : β → Option α} :
    elements.mapM read? = some values
      ↔ List.Forall₂ (fun value element => read? element = some value) values elements := by
  induction elements generalizing values with
  | nil => simp [eq_comm]
  | cons element elements inductionHypothesis =>
      rw [List.mapM_cons]
      constructor
      · intro read
        simp only [Option.bind_eq_bind, Option.bind_eq_some_iff, Option.pure_def,
          Option.some.injEq] at read
        obtain ⟨value, first, more, rest, rfl⟩ := read
        exact .cons first (inductionHypothesis.mp rest)
      · rintro (_ | ⟨first, rest⟩)
        rw [first, inductionHypothesis.mpr rest]
        rfl

/-- A relation of the elements matters only where they are. -/
theorem forall₂_congr_of_mem {related other : α → β → Prop}
    (same : ∀ element ∈ elements, ∀ value, related value element ↔ other value element) :
    List.Forall₂ related values elements ↔ List.Forall₂ other values elements := by
  induction elements generalizing values with
  | nil => simp
  | cons element elements inductionHypothesis =>
    obtain ⟨here, later⟩ := List.forall_mem_cons.mp same
    rw [List.forall₂_cons_right_iff, List.forall₂_cons_right_iff]
    simp only [here, inductionHypothesis later]

/-- Reading a list undoes writing it, if reading an element does. -/
theorem mapM_eq_some_iff_eq_map {read? : β → Option α} {write : α → β}
    (inverse : ∀ element value, read? element = some value ↔ element = write value) :
    elements.mapM read? = some values ↔ elements = values.map write := by
  have each (value : α) (element : β) : read? element = some value ↔ write value = element :=
    (inverse element value).trans eq_comm
  rw [mapM_eq_some_iff, eq_comm, ← List.forall₂_eq_eq_eq, List.forall₂_map_left_iff]
  simp only [each]

/-! ## Writing -/

/-- Things that are each written from one of which something holds. -/
theorem exists_map_of_forall {write : α → β} {holds : α → Prop}
    (each : ∀ element ∈ elements, ∃ value, element = write value ∧ holds value) :
    ∃ values : List α, elements = values.map write ∧ ∀ value ∈ values, holds value := by
  induction elements with
  | nil => exact ⟨[], rfl, by simp⟩
  | cons element elements inductionHypothesis =>
      obtain ⟨value, rfl, here⟩ := each element List.mem_cons_self
      obtain ⟨values, rfl, later⟩ := inductionHypothesis fun element inside =>
        each element (List.mem_cons_of_mem _ inside)
      exact ⟨value :: values, rfl, List.forall_mem_cons.mpr ⟨here, later⟩⟩

end Findings
