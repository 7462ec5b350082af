import Findings.Proofs.Json.Cut

/-!
Contract: lists and objects that were cut off.

Owns:
- lists, from the law that their elements are taken: only the last bracket ends
  them;
- `Shape.Gives`, the members that give the fields of a record one after another,
  each of them taken, and the law that an object of such members is cut off
  before its last bracket;
- values that may be null.

Does not own: the elements and the fields.
-/

namespace Findings.Json

variable {α : Type} {front piece rest : List Char} {bound turns : Nat} {first : Bool}

/-! ## Lists -/

section Lists

theorem starves_nextElement_nil : Starves (nextElement first) [] :=
  ⟨⟨.endInList, [], 1⟩, rfl, rfl⟩

theorem starves_nextElement_comma : Starves (nextElement false) [','] :=
  ⟨⟨.endInValue, [], 1⟩, rfl, rfl⟩

variable {element : Reader α} {encode : α → Value} {values read : List α} {value : α}

theorem starves_elements_nil : Starves (elements element turns first read) [] := by
  cases turns with
  | zero => exact starves_failHere rfl
  | succ turns => exact starves_nextElement_nil.bind

/-- A cut in an element or behind it, if the elements behind it starve. -/
theorem starves_elements_turn
    {text : List Char}
    (announced : (nextElement first).run text = .ok (true, front))
    (takes : Takes element bound piece value)
    (fits : front.length ≤ bound)
    (bounded : Bounded rest)
    (cut : Cut front (piece ++ rest))
    (later : ∀ more, more.length ≤ bound → Cut more rest →
      Starves (elements element turns false (value :: read)) more) :
    Starves (elements element (turns + 1) first read) text := by
  refine starves_bind announced ?_
  rw [if_pos rfl]
  rcases cut_append_iff.mp cut with inside | ⟨more, rfl, behind⟩
  · rcases takes.part front inside fits with starves | ⟨other, taken⟩
    · exact starves.bind
    · exact starves_bind taken starves_elements_nil
  · rw [List.length_append] at fits
    have taken := takes.whole (by omega) more (bounded.of_cut behind)
    exact starves_bind taken (later more (by omega) behind)

/-- The elements after the first are cut off before the bracket. -/
theorem starves_elements_later
    (takes : ∀ value ∈ values, Takes element bound (encode value).compact value)
    (fits : front.length ≤ bound)
    (cut : Cut front (afterCommas (values.map fun value => (encode value).compact) ++ [']'])) :
    Starves (elements element turns false read) front := by
  induction values generalizing turns read front with
  | nil =>
    obtain rfl : front = [] := by simpa [afterCommas, cut_cons_iff, not_cut_nil] using cut
    exact starves_elements_nil
  | cons value more inductionHypothesis =>
    cases turns with
    | zero => exact starves_failHere rfl
    | succ turns =>
      rw [List.map_cons, afterCommas_cons, List.cons_append, List.append_assoc] at cut
      rcases cut_cons_iff.mp cut with rfl | ⟨behind, rfl, cutBehind⟩
      · exact starves_elements_nil
      · obtain ⟨c, letters, spelled, inside, -⟩ := Value.compact_eq_cons (encode value)
        rw [List.length_cons] at fits
        have starts := cutBehind
        rw [spelled, List.cons_append, cut_cons_iff] at starts
        rcases starts with rfl | ⟨further, rfl, -⟩
        · exact starves_nextElement_comma.bind
        · exact starves_elements_turn (run_nextElement_comma inside)
            (takes value List.mem_cons_self) (by omega) (bounded_afterCommas (by decide)) cutBehind
            fun later short cutLater => inductionHypothesis
              (fun value among => takes value (List.mem_cons_of_mem _ among)) short cutLater

/-- A written list is cut off before its last bracket. -/
theorem starves_list
    (takes : ∀ value ∈ values, Takes element bound (encode value).compact value)
    (fits : front.length ≤ bound)
    (cut : Cut front (Value.list (values.map encode)).compact) :
    Starves (list element bound) front := by
  rw [Value.compact_list, List.map_map, List.cons_append] at cut
  rcases cut_cons_iff.mp cut with rfl | ⟨behind, rfl, cutBehind⟩
  · exact starves_valueStart.bind
  refine starves_bind (run_valueStart (by decide)) ?_
  rw [if_pos rfl]
  refine starves_bind rfl ?_
  change Starves (elements element (bound + 1) true []) behind
  rw [List.length_cons] at fits
  cases values with
  | nil =>
    obtain rfl : behind = [] := by simpa [commaJoined, cut_cons_iff, not_cut_nil] using cutBehind
    exact starves_elements_nil
  | cons value more =>
    obtain ⟨c, letters, spelled, inside, -⟩ := Value.compact_eq_cons (encode value)
    rw [List.map_cons, commaJoined, List.append_assoc] at cutBehind
    have starts := cutBehind
    rw [Function.comp_apply, spelled, List.cons_append, cut_cons_iff] at starts
    rcases starts with rfl | ⟨further, rfl, -⟩
    · exact starves_elements_nil
    · exact starves_elements_turn (run_nextElement_first inside)
        (takes value List.mem_cons_self) (by omega) (bounded_afterCommas (by decide)) cutBehind
        fun later short cutLater => starves_elements_later
          (fun value among => takes value (List.mem_cons_of_mem _ among)) short cutLater

theorem takes_list (takes : ∀ value ∈ values, Takes element bound (encode value).compact value) :
    Takes (list element bound) bound (Value.list (values.map encode)).compact values where
  whole fits := reads_list fits fun value among short => (takes value among).whole short
  part _ cut fits := .inl (starves_list takes fits cut)

end Lists

/-! ## Records -/

namespace Shape

open Value (memberText)

/-- The members give the fields of a record one after another: each is known to the
shape, was not given before and is taken, as long as it fits a bound. -/
inductive Gives (shape : Shape α) (bound : Nat) :
    List String → α → List (String × Value) → α → Prop
  | done {seen : List String} {value : α}
      (complete : shape.missing? seen = none) :
      Gives shape bound seen value [] value
  | field {seen : List String} {value result : α} {name : String} {member : Value}
      {members : List (String × Value)} {field : RecordField α} {update : α → α}
      (known : shape.fields.find? (fun field => field.name == name) = some field)
      (fresh : name ∉ seen)
      (takes : Takes field.read bound member.compact update)
      (more : Gives shape bound (name :: seen) (update value) members result) :
      Gives shape bound seen value ((name, member) :: members) result

variable {shape : Shape α} {seen : List String} {value result : α}
  {members : List (String × Value)}

/-- Members that fit the bound fill the record. -/
theorem Gives.fills
    (gives : shape.Gives bound seen value members result)
    (fits : ∀ member ∈ members, member.2.compact.length ≤ bound) :
    shape.Fills seen value members result := by
  induction gives with
  | done complete => exact .done complete
  | field known fresh takes more inductionHypothesis =>
    exact .field known fresh (takes.whole (fits _ List.mem_cons_self))
      (inductionHypothesis fun member among => fits member (List.mem_cons_of_mem _ among))

theorem starves_nextMember_nil : Starves (nextMember first) [] :=
  ⟨⟨.endInObject, [], 1⟩, rfl, rfl⟩

theorem starves_nextMember_comma : Starves (nextMember false) [','] :=
  ⟨⟨.endInValue, [], 1⟩, rfl, rfl⟩

theorem starves_colon : Starves colon [] :=
  ⟨⟨.endInObject, [], 1⟩, rfl, rfl⟩

theorem starves_members_nil : Starves (shape.members bound turns first seen value) [] := by
  cases turns with
  | zero => exact starves_failHere rfl
  | succ turns => exact starves_nextMember_nil.bind

/-- A cut in a member or behind it, if the members behind it starve.  The opening
quote of the name was seen. -/
theorem starves_members_turn
    {text : List Char}
    {name : String}
    {member : Value}
    {field : RecordField α}
    {update : α → α}
    (announced : (nextMember first).run text = .ok (true, '"' :: front))
    (known : shape.fields.find? (fun field => field.name == name) = some field)
    (fresh : name ∉ seen)
    (takes : Takes field.read bound member.compact update)
    (fits : front.length ≤ bound)
    (bounded : Bounded rest)
    (cut : Cut front (name.toList.flatMap escapeChar ++ '"' :: ':' :: (member.compact ++ rest)))
    (later : ∀ more, more.length ≤ bound → Cut more rest →
      Starves (shape.members bound turns false (name :: seen) (update value)) more) :
    Starves (shape.members bound (turns + 1) first seen value) text := by
  refine starves_bind announced ?_
  rw [if_pos rfl]
  refine starves_bind rfl ?_
  change Starves (stringRest >>= _) front
  rw [List.append_cons] at cut
  rcases cut_append_iff.mp cut with inName | ⟨more, rfl, behindName⟩
  · exact (starves_stringRest inName).bind
  rw [List.append_assoc, List.singleton_append]
  refine starves_bind (run_stringRest name more) ?_
  simp only [known, List.contains_eq_mem, fresh, decide_false, Bool.false_eq_true, if_false]
  rcases cut_cons_iff.mp behindName with rfl | ⟨given, rfl, behindColon⟩
  · exact starves_colon.bind
  have colon : colon.run (':' :: given) = .ok ((), given) := by
    simp [Shape.colon, isSpace]
  refine starves_bind colon ?_
  have short : given.length ≤ bound := by
    simp only [List.length_append, List.length_cons] at fits
    omega
  rcases cut_append_iff.mp behindColon with inValue | ⟨after, rfl, behindValue⟩
  · rcases takes.part given inValue short with starves | ⟨other, taken⟩
    · exact starves.bind
    · exact starves_bind taken starves_members_nil
  · rw [List.length_append] at short
    have taken := takes.whole (by omega) after (bounded.of_cut behindValue)
    exact starves_bind taken (later after (by omega) behindValue)

/-- The members after the first are cut off before the bracket. -/
theorem starves_members_later
    (gives : shape.Gives bound seen value members result)
    (fits : front.length ≤ bound)
    (cut : Cut front (afterCommas (members.map memberText) ++ ['\x7d'])) :
    Starves (shape.members bound turns false seen value) front := by
  induction gives generalizing turns front with
  | done complete =>
    obtain rfl : front = [] := by simpa [afterCommas, cut_cons_iff, not_cut_nil] using cut
    exact starves_members_nil
  | field known fresh takes more inductionHypothesis =>
    cases turns with
    | zero => exact starves_failHere rfl
    | succ turns =>
      rw [List.map_cons, afterCommas_cons] at cut
      simp only [memberText, quote, List.cons_append, List.append_assoc, List.nil_append] at cut
      rcases cut_cons_iff.mp cut with rfl | ⟨behind, rfl, cutBehind⟩
      · exact starves_members_nil
      rcases cut_cons_iff.mp cutBehind with rfl | ⟨named, rfl, cutName⟩
      · exact starves_nextMember_comma.bind
      · rw [List.length_cons, List.length_cons] at fits
        exact starves_members_turn run_nextMember_comma known fresh takes (by omega)
          (bounded_afterCommas (by decide)) cutName
          fun later short cutLater => inductionHypothesis short cutLater

/-- A written object is cut off before its last bracket. -/
theorem Gives.starves_record
    (gives : shape.Gives bound [] shape.blank members result)
    (fits : front.length ≤ bound)
    (cut : Cut front (Value.object members).compact) :
    Starves (record shape bound) front := by
  rw [Value.compact_object, List.cons_append] at cut
  rcases cut_cons_iff.mp cut with rfl | ⟨behind, rfl, cutBehind⟩
  · exact starves_valueStart.bind
  refine starves_bind (run_valueStart (by decide)) ?_
  change Starves (Reader.skipOne >>= fun _ => shape.members bound (bound + 1) true [] shape.blank) _
  refine starves_bind rfl ?_
  change Starves (shape.members bound (bound + 1) true [] shape.blank) behind
  rw [List.length_cons] at fits
  cases gives with
  | done complete =>
    obtain rfl : behind = [] := by simpa [commaJoined, cut_cons_iff, not_cut_nil] using cutBehind
    exact starves_members_nil
  | field known fresh takes more =>
    rw [List.map_cons, commaJoined] at cutBehind
    simp only [memberText, quote, List.cons_append, List.append_assoc, List.nil_append]
      at cutBehind
    rcases cut_cons_iff.mp cutBehind with rfl | ⟨named, rfl, cutName⟩
    · exact starves_members_nil
    · rw [List.length_cons] at fits
      exact starves_members_turn run_nextMember_first known fresh takes (by omega)
        (bounded_afterCommas (by decide)) cutName
        fun later short cutLater => starves_members_later more short cutLater

/-- An object of members that give a record is taken for it. -/
theorem Gives.takes_record (gives : shape.Gives bound [] shape.blank members result) :
    Takes (record shape bound) bound (Value.object members).compact result where
  whole fits := reads_record (gives.fills fun _ among =>
    Nat.le_trans (Value.length_le_object_of_mem among) fits) fits
  part _ cut fits := .inl (gives.starves_record fits cut)

end Shape

/-! ## Values that may be null -/

/-- A text that does not start like a null is read as if there were none. -/
theorem run_nullable
    {reader : Reader α}
    {text : List Char}
    (starts : ∀ c ∈ text.head?, isSpace c = false ∧ c ≠ 'n') :
    (nullable reader).run text = (some <$> reader).run text := by
  cases text with
  | nil => simp [nullable]
  | cons c more =>
    obtain ⟨solid, notNull⟩ := starts c rfl
    simp [nullable, solid, notNull]

/-- A beginning of any value but null does not start like a null. -/
theorem starts_of_cut {value : Value} (present : value ≠ .null) (cut : Cut front value.compact) :
    ∀ c ∈ front.head?, isSpace c = false ∧ c ≠ 'n' := by
  intro c head
  obtain ⟨first, letters, spelled, inside, notNull⟩ := Value.compact_eq_cons value
  rw [spelled, cut_cons_iff] at cut
  rcases cut with rfl | ⟨more, rfl, -⟩
  · simp at head
  · obtain rfl : first = c := by simpa using head
    exact ⟨isSpace_of_not_isBoundary inside, notNull present⟩

theorem Takes.nullable
    {reader : Reader α}
    {value : Value}
    {result : α}
    (present : value ≠ .null)
    (takes : Takes reader bound value.compact result) :
    Takes (nullable reader) bound value.compact (some result) := by
  constructor
  case whole => exact fun fits => (takes.whole fits).nullable present
  case part =>
    intro front cut fits
    rw [Starves, run_nullable (starts_of_cut present cut)]
    exact (takes.map : Takes (some <$> reader) _ _ _).part front cut fits

end Findings.Json
