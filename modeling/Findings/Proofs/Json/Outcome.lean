import Findings.Proofs.Json.Document
import Findings.Proofs.Json.Reader

/-!
Contract: what becomes of a text, whatever the fault if it is refused.

Owns:
- `Reader.run?`, a reader without its faults, with one equation for each small
  reader;
- `Decides`, the law that a reader takes a piece of text for a value or refuses
  it, whatever comes after it;
- the white space in front of a piece.

Does not own: which fault a text is refused with, and where.
-/

namespace Findings.Json

variable {α β : Type} {text rest : List Char} {c : Char}

namespace Reader

/-- What a reader takes off the front of a text, if it takes anything. -/
def run? (reader : Reader α) (text : List Char) : Option (α × List Char) :=
  (reader.run text).toOption

@[simp]
theorem run?_pure {value : α} : (pure value : Reader α).run? text = some (value, text) :=
  rfl

@[simp]
theorem run?_bind {reader : Reader α} {next : α → Reader β} :
    (reader >>= next).run? text
      = (reader.run? text).bind fun read => (next read.1).run? read.2 := by
  unfold run?
  rw [StateT.run_bind]
  cases reader.run text <;> rfl

@[simp]
theorem run?_map {reader : Reader α} {change : α → β} :
    (change <$> reader).run? text
      = (reader.run? text).map fun read => (change read.1, read.2) := by
  unfold run?
  rw [StateT.run_map]
  cases reader.run text <;> rfl

@[simp]
theorem run?_ite {condition : Prop} [Decidable condition] {first second : Reader α} :
    (if condition then first else second).run? text
      = if condition then first.run? text else second.run? text := by
  split <;> rfl

@[simp]
theorem run?_get : (get : Reader (List Char)).run? text = some (text, text) :=
  rfl

@[simp]
theorem run?_set {next : List Char} : (set next : Reader Unit).run? text = some ((), next) :=
  rfl

@[simp]
theorem run?_peek? : peek?.run? text = some (text.head?, text) :=
  rfl

@[simp]
theorem run?_skipOne : skipOne.run? text = some ((), text.tail) :=
  rfl

@[simp]
theorem run?_ofStep {step : List Char → Except Fault (α × List Char)} :
    (ofStep step).run? text = (step text).toOption :=
  rfl

@[simp]
theorem run?_fail {fault : Fault} : (fail fault : Reader α).run? text = none :=
  rfl

@[simp]
theorem run?_failHere {cause : Cause} : (failHere cause : Reader α).run? text = none :=
  rfl

@[simp]
theorem run?_failAtNext {cause : Cause} : (failAtNext cause : Reader α).run? text = none :=
  rfl

@[simp]
theorem run?_skipSpace : skipSpace.run? text = some ((), text.dropWhile isSpace) :=
  rfl

@[simp]
theorem run?_skipDigits : skipDigits.run? text = some ((), text.dropWhile Char.isDigit) :=
  rfl

theorem run?_literalRest {name : List Char} :
    (literalRest name).run? (name ++ rest) = some ((), rest) := by
  rw [run?, run_literalRest]
  rfl

end Reader

/-! ## White space -/

@[simp]
theorem Space.dropWhile_append (space : Space) :
    (space.chars ++ text).dropWhile isSpace = text.dropWhile isSpace := by
  rw [List.dropWhile_append_of_pos space.blank]

theorem Space.dropWhile_eq_nil (space : Space) : space.chars.dropWhile isSpace = [] := by
  have whole : (space.chars ++ []).dropWhile isSpace = [] := space.dropWhile_append
  rwa [List.append_nil] at whole

theorem dropWhile_solid (solid : isSpace c = false) :
    (c :: text).dropWhile isSpace = c :: text := by
  simp [solid]

/-- White space may come after a value. -/
theorem Space.bounded (space : Space) (bounded : Bounded text) : Bounded (space.chars ++ text) := by
  cases spelled : space.chars with
  | nil => exact bounded
  | cons c more =>
      apply bounded_cons
      have blank : isSpace c = true := space.blank c (spelled ▸ List.mem_cons_self)
      simp [isBoundary, blank]

/-- A reader passes over the white space in front of what it reads. -/
def IgnoresSpace (reader : Reader α) : Prop :=
  ∀ (space : Space) (text : List Char), reader.run? (space.chars ++ text) = reader.run? text

theorem ignoresSpace_skipSpace {next : Unit → Reader α} : IgnoresSpace (skipSpace >>= next) := by
  intro space text
  simp

theorem ignoresSpace_valueStart {next : Char → Reader α} : IgnoresSpace (valueStart >>= next) := by
  intro space text
  simp [valueStart]

theorem IgnoresSpace.map {reader : Reader α} {change : α → β} (ignores : IgnoresSpace reader) :
    IgnoresSpace (change <$> reader) := by
  intro space text
  rw [Reader.run?_map, Reader.run?_map, ignores]

@[simp]
theorem run?_valueStart (solid : isSpace c = false) :
    valueStart.run? (c :: rest) = some (c, c :: rest) := by
  rw [Reader.run?, run_valueStart solid]
  rfl

/-! ## Decisions -/

/-- A reader takes a piece of text for a value, or refuses it if there is none. -/
def Decides (reader : Reader α) (piece : List Char) (outcome : Option α) : Prop :=
  ∀ rest, Bounded rest →
    reader.run? (piece ++ rest) = outcome.map fun value => (value, rest)

theorem Decides.map {reader : Reader α} {piece : List Char} {outcome : Option α}
    (change : α → β) (decides : Decides reader piece outcome) :
    Decides (change <$> reader) piece (outcome.map change) := by
  intro rest bounded
  rw [Reader.run?_map, decides rest bounded, Option.map_map, Option.map_map]
  rfl

/-- A value of another kind than the expected one is refused, whatever it is. -/
theorem run?_wrongKind {expected : String} :
    (wrongKind expected : Reader α).run? text = none := by
  unfold wrongKind
  cases text with
  | nil => simp
  | cons c rest =>
      simp only [Reader.run?_bind, Reader.run?_peek?, Option.bind_some, List.head?_cons,
        Reader.run?_ite, Reader.run?_skipOne, Reader.run?_failHere, Reader.run?_failAtNext,
        Option.bind_fun_none]
      repeat' split
      all_goals try rfl
      all_goals
        apply Option.bind_eq_none_iff.mpr
        rintro ⟨number, _⟩ _
        cases number <;> rfl

/-- A whole text is a document if it is decided to be one. -/
theorem Decides.document
    {reader : Reader α}
    {outcome : Option α}
    (before after : Space)
    (ignores : IgnoresSpace reader)
    (decides : Decides reader text outcome) :
    (document reader (before.chars ++ text ++ after.chars)).toOption = outcome := by
  have bounded : Bounded after.chars := by
    simpa using after.bounded bounded_nil
  have read : reader.run? (before.chars ++ text ++ after.chars)
      = outcome.map fun value => (value, after.chars) := by
    rw [List.append_assoc, ignores, decides _ bounded]
  unfold Reader.run? at read
  unfold Json.document
  cases result : reader.run (before.chars ++ text ++ after.chars) with
  | error fault =>
      rw [result] at read
      cases outcome with
      | none => rfl
      | some value => contradiction
  | ok taken =>
      rw [result] at read
      cases outcome with
      | none => contradiction
      | some value =>
          obtain rfl := Option.some.inj read
          simp [after.dropWhile_eq_nil, Except.toOption]

end Findings.Json
