import Findings.Json.Record
import Findings.Json.Value

/-!
Contract: what the small readers of JSON do to a text.

Owns:
- one equation for each small reader;
- `Reads`, the law that a reader takes a piece of text for a value, whatever
  comes after it;
- the characters that may come after a value or between values, and the law
  that no value starts with one of them.

A number ends where something else begins, so the law about what follows is part
of `Reads`; for strings, lists and objects it is not needed.

Does not own: readers of lists and objects, which are built from these.
-/

namespace Findings.Json

variable {α β : Type} {text rest : List Char} {c : Char}

/-! ## Small readers -/

@[simp]
theorem ok_bind {ε : Type} {value : α} {next : α → Except ε β} :
    (Except.ok value >>= next) = next value :=
  rfl

@[simp]
theorem pure_eq_ok {ε : Type} {value : α} : (pure value : Except ε α) = .ok value :=
  rfl

@[simp]
theorem map_ok {ε : Type} {change : α → β} {value : α} :
    (change <$> Except.ok value : Except ε β) = .ok (change value) :=
  rfl

namespace Reader

@[simp]
theorem run_peek? : peek?.run text = .ok (text.head?, text) :=
  rfl

@[simp]
theorem run_skipOne : skipOne.run text = .ok ((), text.tail) :=
  rfl

@[simp]
theorem run_ofStep {step : List Char → Except Fault (α × List Char)} :
    (ofStep step).run text = step text :=
  rfl

end Reader

@[simp]
theorem run_skipSpace : skipSpace.run text = .ok ((), text.dropWhile isSpace) :=
  rfl

theorem run_literalRest {name : List Char} : (literalRest name).run (name ++ rest) = .ok ((), rest) := by
  induction name with
  | nil => rfl
  | cons c name inductionHypothesis => simpa [literalRest] using inductionHypothesis

/-! ## Around values -/

/-- A character that may come after a value. -/
def isBoundary (c : Char) : Bool :=
  isSpace c || c == ',' || c == ']' || c == '\x7d'

/-- A text that may come after a value. -/
def Bounded (rest : List Char) : Prop :=
  ∀ c ∈ rest.head?, isBoundary c

theorem bounded_nil : Bounded [] := by
  simp [Bounded]

theorem bounded_cons (boundary : isBoundary c) : Bounded (c :: rest) := by
  simpa [Bounded] using boundary

theorem isSpace_of_not_isBoundary (inside : isBoundary c = false) : isSpace c = false := by
  simp only [isBoundary, Bool.or_eq_false_iff] at inside
  exact inside.1.1.1

theorem ne_of_not_isBoundary {bound : Char} (inside : isBoundary c = false)
    (boundary : isBoundary bound = true) : c ≠ bound := by
  rintro rfl
  rw [boundary] at inside
  contradiction

@[simp]
theorem run_valueStart (solid : isSpace c = false) :
    valueStart.run (c :: rest) = .ok (c, c :: rest) := by
  simp [valueStart, solid]

/-! ## Pieces that are read -/

/-- A reader takes a piece of text for a value. -/
def Reads (reader : Reader α) (piece : List Char) (value : α) : Prop :=
  ∀ rest, Bounded rest → reader.run (piece ++ rest) = .ok (value, rest)

theorem Reads.map {reader : Reader α} {piece : List Char} {value : α} (change : α → β)
    (reads : Reads reader piece value) : Reads (change <$> reader) piece (change value) := by
  intro rest bounded
  rw [StateT.run_map, reads rest bounded, map_ok]

/-- A text that is read to its end is a document. -/
theorem Reads.document {reader : Reader α} {value : α} (reads : Reads reader text value) :
    document reader text = .ok value := by
  have whole : reader.run text = .ok (value, []) := by
    simpa using reads [] bounded_nil
  simp [Json.document, whole]

/-- A text that goes on behind what is read is no document, unless it goes on with
white space. -/
theorem document_of_solid
    {reader : Reader α}
    {value : α}
    (read : reader.run text = .ok (value, rest))
    (solid : ∃ c ∈ rest, isSpace c = false) :
    ∃ fault, Json.document reader text = .error fault ∧ fault.cause = .trailingCharacters := by
  have left : rest.dropWhile isSpace ≠ [] := by
    intro allSpace
    obtain ⟨c, inside, notSpace⟩ := solid
    rw [← List.takeWhile_append_dropWhile (p := isSpace) (l := rest), allSpace,
      List.append_nil] at inside
    rw [List.all_eq_true.mp List.all_takeWhile c inside] at notSpace
    contradiction
  obtain ⟨c, more, trailing⟩ := List.exists_cons_of_ne_nil left
  refine ⟨⟨.trailingCharacters, c :: more, 1⟩, ?_, rfl⟩
  simp only [Json.document, read, ok_bind, trailing]
  rfl

/-- A null is read as nothing. -/
theorem reads_nullable_null {reader : Reader α} :
    Reads (nullable reader) Value.null.compact none := by
  intro rest _
  have null : (literalRest ['u', 'l', 'l']).run ('u' :: 'l' :: 'l' :: rest) = .ok ((), rest) :=
    run_literalRest
  simp [nullable, Value.compact, isSpace, null]

end Findings.Json
