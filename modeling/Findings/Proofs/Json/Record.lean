import Findings.Proofs.Json.Quoted
import Findings.Proofs.Json.Value

/-!
Contract: lists and objects that are written are read back.

Owns:
- values that may be null;
- lists, from the law that every element is read back;
- `Shape.Fills`, the members that give the fields of a record one after another,
  and the law that an object of such members is read as the record.

The turns of a reader are counted, and the number of elements or members is
bounded by the length of the text, so the turns never run out.

Does not own: lists of fields, members that are passed over, and white space,
none of which is ever written.
-/

namespace Findings.Json

variable {α : Type} {text piece rest : List Char} {c : Char}

/-! ## Values that may be null -/

/-- Any value but null is read as it would be if it could not be null. -/
theorem Reads.nullable {reader : Reader α} {value : Value} {result : α}
    (present : value ≠ .null) (reads : Reads reader value.compact result) :
    Reads (nullable reader) value.compact (some result) := by
  intro rest bounded
  obtain ⟨c, more, spelled, inside, notNull⟩ := Value.compact_eq_cons value
  have solid := isSpace_of_not_isBoundary inside
  have read := reads rest bounded
  rw [spelled, List.cons_append] at read ⊢
  simp [Json.nullable, solid, notNull present, read]

/-- An integer or its absence is read back. -/
theorem reads_nullable_integer
    {least greatest : Int}
    {expected : String}
    {value : Option Int}
    (inside : ∀ number ∈ value, least ≤ number ∧ number ≤ greatest)
    (representable : Int64.minValue.toInt ≤ least ∧ greatest ≤ significandLimit) :
    Reads (nullable (integer least greatest expected)) (Value.ofOption value).compact value := by
  cases value with
  | none => exact reads_nullable_null
  | some number =>
      have bounds := inside number rfl
      have fits : Int64.minValue.toInt ≤ number ∧ number ≤ significandLimit := by omega
      exact (reads_integer bounds fits).nullable (by simp [Value.ofOption])

/-! ## Commas -/

/-- What follows a piece in a text is a comma or the closing bracket. -/
theorem bounded_afterCommas {pieces : List (List Char)} (boundary : isBoundary c = true) :
    Bounded (afterCommas pieces ++ c :: rest) := by
  cases pieces with
  | nil => exact bounded_cons boundary
  | cons piece more => exact bounded_cons (by decide)

/-! ## Lists -/

theorem run_nextElement_end {first : Bool} :
    (nextElement first).run (']' :: rest) = .ok (false, ']' :: rest) := by
  simp [nextElement, isSpace]

theorem run_nextElement_first (inside : isBoundary c = false) :
    (nextElement true).run (c :: rest) = .ok (true, c :: rest) := by
  have solid := isSpace_of_not_isBoundary inside
  have notEnd : c ≠ ']' := ne_of_not_isBoundary inside (by decide)
  simp [nextElement, solid, notEnd]

theorem run_nextElement_comma (inside : isBoundary c = false) :
    (nextElement false).run (',' :: c :: rest) = .ok (true, c :: rest) := by
  have solid := isSpace_of_not_isBoundary inside
  have notEnd : c ≠ ']' := ne_of_not_isBoundary inside (by decide)
  have comma : isSpace ',' = false := by decide
  simp [nextElement, comma, solid, notEnd]

theorem run_elements_end {element : Reader α} {bound : Nat} {first : Bool} {read : List α} :
    (elements element (bound + 1) first read).run (']' :: rest) = .ok (read.reverse, rest) := by
  simp [elements, run_nextElement_end, closeList, isSpace]

/-- One turn of the reader of a list. -/
theorem run_elements_turn
    {element : Reader α}
    {bound : Nat}
    {first : Bool}
    {read : List α}
    {value : α}
    (announced : (nextElement first).run text = .ok (true, piece ++ rest))
    (reads : Reads element piece value)
    (bounded : Bounded rest) :
    (elements element (bound + 1) first read).run text
      = (elements element bound false (value :: read)).run rest := by
  simp [elements, announced, reads rest bounded]

/-- The elements after the first are read back. -/
theorem run_elements_later
    {element : Reader α}
    {encode : α → Value}
    {values read : List α}
    {bound : Nat}
    (enough : values.length < bound)
    (reads : ∀ value ∈ values, Reads element (encode value).compact value) :
    (elements element bound false read).run
        (afterCommas (values.map fun value => (encode value).compact) ++ ']' :: rest)
      = .ok (read.reverse ++ values, rest) := by
  induction values generalizing read bound with
  | nil =>
      obtain ⟨turns, rfl⟩ := Nat.exists_eq_add_one_of_ne_zero (Nat.ne_zero_of_lt enough)
      simpa [afterCommas] using run_elements_end
  | cons value more inductionHypothesis =>
      obtain ⟨turns, rfl⟩ := Nat.exists_eq_add_one_of_ne_zero (Nat.ne_zero_of_lt enough)
      rw [List.length_cons] at enough
      obtain ⟨c, letters, spelled, inside, -⟩ := Value.compact_eq_cons (encode value)
      have here := reads value List.mem_cons_self
      let later := afterCommas (more.map fun value => (encode value).compact) ++ ']' :: rest
      have announced : (nextElement false).run
          (afterCommas ((value :: more).map fun value => (encode value).compact) ++ ']' :: rest)
            = .ok (true, (encode value).compact ++ later) := by
        simp only [later, List.map_cons, afterCommas, List.flatMap_cons, spelled,
          List.cons_append, List.append_assoc]
        exact run_nextElement_comma inside
      rw [run_elements_turn announced here (bounded_afterCommas (by decide)),
        inductionHypothesis (Nat.lt_of_succ_lt_succ enough)
          fun value later => reads value (List.mem_cons_of_mem _ later)]
      simp

/-- A written list whose text fits the bound is read back if its elements are,
whatever comes after its bracket. -/
theorem run_list
    {element : Reader α}
    {encode : α → Value}
    {values : List α}
    {bound : Nat}
    (fits : (Value.list (values.map encode)).compact.length ≤ bound)
    (reads : ∀ value ∈ values, (encode value).compact.length ≤ bound →
      Reads element (encode value).compact value)
    (rest : List Char) :
    (list element bound).run ((Value.list (values.map encode)).compact ++ rest)
      = .ok (values, rest) := by
  have enough : values.length ≤ bound := by
    have count : (values.map encode).length ≤ bound := Nat.le_trans Value.length_elements_le fits
    rwa [List.length_map] at count
  have each : ∀ value ∈ values, Reads element (encode value).compact value := by
    intro value inside
    apply reads value inside
    exact Nat.le_trans (Value.length_le_list_of_mem (List.mem_map_of_mem inside)) fits
  have loop : (elements element (bound + 1) true []).run
      (commaJoined (values.map fun value => (encode value).compact) ++ ']' :: rest)
        = .ok (values, rest) := by
    cases values with
    | nil => exact run_elements_end
    | cons value more =>
        obtain ⟨c, letters, spelled, inside, -⟩ := Value.compact_eq_cons (encode value)
        rw [List.map_cons, commaJoined, List.append_assoc,
          run_elements_turn ?announced (each value List.mem_cons_self)
            (bounded_afterCommas (c := ']') (by decide)),
          run_elements_later enough fun value later => each value (List.mem_cons_of_mem _ later)]
        · rfl
        case announced =>
          rw [spelled, List.cons_append]
          exact run_nextElement_first inside
  rw [Value.compact_list, List.map_map]
  simpa [list, isSpace, Function.comp_def] using loop

theorem reads_list
    {element : Reader α}
    {encode : α → Value}
    {values : List α}
    {bound : Nat}
    (fits : (Value.list (values.map encode)).compact.length ≤ bound)
    (reads : ∀ value ∈ values, (encode value).compact.length ≤ bound →
      Reads element (encode value).compact value) :
    Reads (list element bound) (Value.list (values.map encode)).compact values :=
  fun rest _ => run_list fits reads rest

/-! ## Records -/

namespace Shape

open Value (memberText)

/-- The members give the fields of a record one after another: each is known to
the shape, was not given before and is read, and none that is required is left
out at the end. -/
inductive Fills (shape : Shape α) :
    List String → α → List (String × Value) → α → Prop
  | done {seen : List String} {value : α}
      (complete : shape.missing? seen = none) :
      Fills shape seen value [] value
  | field {seen : List String} {value result : α} {name : String} {member : Value}
      {members : List (String × Value)} {field : RecordField α} {update : α → α}
      (known : shape.fields.find? (fun field => field.name == name) = some field)
      (fresh : name ∉ seen)
      (reads : Reads field.read member.compact update)
      (more : Fills shape (name :: seen) (update value) members result) :
      Fills shape seen value ((name, member) :: members) result

theorem run_nextMember_end {first : Bool} :
    (nextMember first).run ('\x7d' :: rest) = .ok (false, '\x7d' :: rest) := by
  simp [nextMember, isSpace]

theorem run_nextMember_first :
    (nextMember true).run ('"' :: rest) = .ok (true, '"' :: rest) := by
  simp [nextMember, isSpace]

theorem run_nextMember_comma :
    (nextMember false).run (',' :: '"' :: rest) = .ok (true, '"' :: rest) := by
  simp [nextMember, isSpace]

variable {shape : Shape α} {bound turns : Nat} {first : Bool} {seen : List String}
  {value result : α} {members : List (String × Value)}

theorem run_members_end (complete : shape.missing? seen = none) :
    (shape.members bound (turns + 1) first seen value).run ('\x7d' :: rest)
      = .ok (value, rest) := by
  simp [Shape.members, run_nextMember_end, complete]

/-- One turn of the reader of an object. -/
theorem run_members_turn
    {name : String}
    {member : Value}
    {field : RecordField α}
    {update : α → α}
    (announced : (nextMember first).run text = .ok (true, memberText (name, member) ++ rest))
    (known : shape.fields.find? (fun field => field.name == name) = some field)
    (fresh : name ∉ seen)
    (reads : Reads field.read member.compact update)
    (bounded : Bounded rest) :
    (shape.members bound (turns + 1) first seen value).run text
      = (shape.members bound turns false (name :: seen) (update value)).run rest := by
  have named := run_stringRest name (':' :: (member.compact ++ rest))
  have colon : colon.run (':' :: (member.compact ++ rest)) = .ok ((), member.compact ++ rest) := by
    simp [Shape.colon, isSpace]
  have spelled : (memberText (name, member) ++ rest).tail
      = name.toList.flatMap escapeChar ++ '"' :: ':' :: (member.compact ++ rest) := by
    simp [memberText, quote]
  rw [Shape.members]
  simp [announced, spelled, named, known, fresh, colon, reads rest bounded]

/-- The members after the first are read back. -/
theorem run_members_later
    (fills : Fills shape seen value members result)
    (enough : members.length < turns) :
    (shape.members bound turns false seen value).run
        (afterCommas (members.map memberText) ++ '\x7d' :: rest)
      = .ok (result, rest) := by
  induction fills generalizing turns with
  | done complete =>
      obtain ⟨turns, rfl⟩ := Nat.exists_eq_add_one_of_ne_zero (Nat.ne_zero_of_lt enough)
      exact run_members_end complete
  | @field seen value result name member members field update known fresh reads more
      inductionHypothesis =>
      obtain ⟨turns, rfl⟩ := Nat.exists_eq_add_one_of_ne_zero (Nat.ne_zero_of_lt enough)
      let later := afterCommas (members.map memberText) ++ '\x7d' :: rest
      have announced : (nextMember false).run
          (afterCommas (((name, member) :: members).map memberText) ++ '\x7d' :: rest)
            = .ok (true, memberText (name, member) ++ later) := by
        simp only [later, List.map_cons, afterCommas, List.flatMap_cons, memberText, quote,
          List.cons_append, List.append_assoc]
        exact run_nextMember_comma
      rw [run_members_turn announced known fresh reads (bounded_afterCommas (by decide)),
        inductionHypothesis (Nat.lt_of_succ_lt_succ enough)]

end Shape

/-- A written object whose text fits the bound and whose members fill a record
is read as the record. -/
theorem reads_record
    {shape : Shape α}
    {bound : Nat}
    {result : α}
    {members : List (String × Value)}
    (fills : shape.Fills [] shape.blank members result)
    (fits : (Value.object members).compact.length ≤ bound) :
    Reads (record shape bound) (Value.object members).compact result := by
  have enough : members.length ≤ bound := Nat.le_trans Value.length_members_le fits
  intro rest _
  have loop : (shape.members bound (bound + 1) true [] shape.blank).run
      (commaJoined (members.map Value.memberText) ++ '\x7d' :: rest) = .ok (result, rest) := by
    cases fills with
    | done complete => exact Shape.run_members_end complete
    | @field _ _ _ name member members field update known fresh reads more =>
        rw [List.map_cons, commaJoined, List.append_assoc,
          Shape.run_members_turn ?announced known fresh reads
            (bounded_afterCommas (c := '\x7d') (by decide)),
          Shape.run_members_later more enough]
        case announced => exact Shape.run_nextMember_first
  rw [Value.compact_object]
  simpa [record, isSpace] using loop

/-- A written name is read as the only member of its set. -/
theorem reads_variant (name : String) : Reads (variant name) (Value.text name).compact () := by
  intro rest _
  have body := run_stringRest name rest
  simp [variant, Value.compact, quote, isSpace, body]

end Findings.Json
