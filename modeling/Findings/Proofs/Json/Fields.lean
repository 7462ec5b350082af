import Mathlib.Data.List.Nodup
import Findings.Proofs.Json.Schema

/-!
Contract: records are read from documents field by field.

Owns:
- `FieldMeaning`, a field with the value that a tree gives it, and the laws of a
  list of fields that make up a record;
- `fill?`, the record that the members of an object give one after another, and
  the law that this is the record whose fields have the values that their only
  members give;
- `positional?`, the record that the elements of a list give in order;
- the law that the reader of a record takes documents for these records.

Members come in any order.  Their names are compared as they are spelled out, and
members without a field may say anything.
-/

namespace Findings.Json

variable {α : Type}

/-! ## Fields -/

/-- A field with what its value is: the value that a tree gives, where it is kept
in a record, and how it is put there. -/
structure FieldMeaning (α : Type) extends RecordField α where
  Value : Type
  value? : Tree → Option Value
  put : Value → α → α
  get : α → Value

namespace FieldMeaning

def change? (field : FieldMeaning α) (tree : Tree) : Option (α → α) :=
  (field.value? tree).map field.put

/-- The members of an object give a field its value: by the only member of its
name, or by none if the field may be left out. -/
def Given
    (field : FieldMeaning α)
    (blank : α)
    (members : List (String × Tree))
    (record : α) :
    Prop :=
  (∃ tree, valuesOf field.name members = [tree] ∧ field.value? tree = some (field.get record))
    ∨ valuesOf field.name members = [] ∧ field.presence ≠ .required
      ∧ field.get record = field.get blank

/-- The same for the members that are still to come, when the names in `seen`
were given. -/
def GivenLater
    (field : FieldMeaning α)
    (seen : List String)
    (value : α)
    (members : List (String × Tree))
    (record : α) :
    Prop :=
  if field.name ∈ seen then
    valuesOf field.name members = [] ∧ field.get record = field.get value
  else field.Given value members record

end FieldMeaning

/-- Fields that make up a record: their names differ, each holds its own value, and
together they are all there is. -/
structure MakeUp (fields : List (FieldMeaning α)) : Prop where
  distinct : (fields.map fun field => field.name).Nodup
  get_put : ∀ field ∈ fields, ∀ value record, field.get (field.put value record) = value
  get_other : ∀ first ∈ fields, ∀ second ∈ fields, first.name ≠ second.name →
    ∀ value record, first.get (second.put value record) = first.get record
  ext : ∀ left right, (∀ field ∈ fields, field.get left = field.get right) → left = right

/-! ## Members -/

section Values

variable {name other : String} {tree : Tree} {members : List (String × Tree)}

@[simp]
theorem valuesOf_nil : valuesOf name [] = [] :=
  rfl

theorem valuesOf_cons_same : valuesOf name ((name, tree) :: members) = tree :: valuesOf name members := by
  simp [valuesOf]

theorem valuesOf_cons_other (different : name ≠ other) :
    valuesOf name ((other, tree) :: members) = valuesOf name members := by
  simp [valuesOf, Ne.symm different]

end Values

/-- The record that members give one after another. -/
def fill?
    (fields : List (FieldMeaning α))
    (seen : List String)
    (value : α) :
    List (String × Tree) → Option α
  | [] =>
    if ∀ field ∈ fields, field.presence = .required → field.name ∈ seen then some value else none
  | (name, tree) :: members =>
    match fields.find? fun field => field.name == name with
    | none => fill? fields seen value members
    | some field =>
      if name ∈ seen then none
      else (field.change? tree).bind fun change =>
        fill? fields (name :: seen) (change value) members

section Fill

variable {fields : List (FieldMeaning α)} {seen : List String} {value blank record : α}
  {members : List (String × Tree)}

/-- A member that is put into a record gives its own field, and no other. -/
theorem givenLater_put
    {field given : FieldMeaning α}
    {tree : Tree}
    {put : given.Value}
    (makeUp : MakeUp fields)
    (inside : field ∈ fields)
    (known : given ∈ fields)
    (fresh : given.name ∉ seen)
    (holds : given.value? tree = some put) :
    field.GivenLater (given.name :: seen) (given.put put value) members record
      ↔ field.GivenLater seen value ((given.name, tree) :: members) record := by
  by_cases same : field.name = given.name
  · obtain rfl := List.inj_on_of_nodup_map makeUp.distinct inside known same
    rw [FieldMeaning.GivenLater, FieldMeaning.GivenLater, if_pos List.mem_cons_self, if_neg fresh,
      FieldMeaning.Given, valuesOf_cons_same, makeUp.get_put field inside]
    constructor
    · rintro ⟨last, kept⟩
      exact .inl ⟨tree, by rw [last], by rw [holds, kept]⟩
    · rintro (⟨only, spelled, gives⟩ | ⟨none, -⟩)
      · obtain ⟨rfl, last⟩ := List.cons.inj spelled
        rw [holds] at gives
        exact ⟨last, (Option.some.inj gives).symm⟩
      · contradiction
  · have seen_iff : field.name ∈ given.name :: seen ↔ field.name ∈ seen := by
      simp [same]
    simp only [FieldMeaning.GivenLater, FieldMeaning.Given, seen_iff, valuesOf_cons_other same,
      makeUp.get_other field inside given known same]

/-- When no member is left, the fields that were not given must be ones that may be
left out. -/
theorem givenLater_nil {field : FieldMeaning α} :
    field.GivenLater seen value [] record
      ↔ (field.presence = .required → field.name ∈ seen) ∧ field.get record = field.get value := by
  unfold FieldMeaning.GivenLater FieldMeaning.Given
  by_cases given : field.name ∈ seen <;> simp [given]

/-- The members give the rest of a record exactly if they give each field that was
not given before, and no other again. -/
theorem fill?_eq_some_iff_givenLater (makeUp : MakeUp fields) :
    fill? fields seen value members = some record
      ↔ ∀ field ∈ fields, field.GivenLater seen value members record := by
  induction members generalizing seen value with
  | nil =>
      have same : value = record ↔ ∀ field ∈ fields, field.get record = field.get value :=
        ⟨fun same _ _ => by rw [same], fun same => (makeUp.ext _ _ same).symm⟩
      simp only [fill?, Option.ite_none_right_eq_some, Option.some.injEq, same, givenLater_nil,
        ← forall_and]
  | cons member members inductionHypothesis =>
      obtain ⟨name, tree⟩ := member
      rw [fill?]
      cases found : fields.find? fun field => field.name == name with
      | none =>
          -- no field has the name, so no field looks at the member
          have unknown : ∀ field ∈ fields, field.name ≠ name := by
            simpa using List.find?_eq_none.mp found
          dsimp only
          rw [inductionHypothesis]
          refine forall₂_congr fun field inside => ?_
          simp only [FieldMeaning.GivenLater, FieldMeaning.Given,
            valuesOf_cons_other (unknown field inside)]
      | some given =>
          have known : given ∈ fields := List.mem_of_find?_eq_some found
          obtain rfl : given.name = name := by simpa using List.find?_some found
          dsimp only
          by_cases again : given.name ∈ seen
          · -- the name comes for the second time, which no field allows
            rw [if_pos again]
            refine iff_of_false (by simp) fun all => ?_
            have twice := all given known
            rw [FieldMeaning.GivenLater, if_pos again, valuesOf_cons_same] at twice
            exact absurd twice.1 (List.cons_ne_nil _ _)
          · rw [if_neg again, FieldMeaning.change?]
            cases holds : given.value? tree with
            | none =>
                -- the only value of the name is none that the field takes
                refine iff_of_false (by simp) fun all => ?_
                have read := all given known
                rw [FieldMeaning.GivenLater, if_neg again, FieldMeaning.Given,
                  valuesOf_cons_same] at read
                rcases read with ⟨only, spelled, gives⟩ | ⟨none, -⟩
                · rw [← (List.cons.inj spelled).1, holds] at gives
                  contradiction
                · contradiction
            | some put =>
                rw [Option.map_some, Option.bind_some, inductionHypothesis]
                exact forall₂_congr fun field inside =>
                  givenLater_put makeUp inside known again holds

/-- The members of an object give a record exactly if they give each of its fields. -/
theorem fill?_eq_some_iff (makeUp : MakeUp fields) :
    fill? fields [] blank members = some record
      ↔ ∀ field ∈ fields, field.Given blank members record := by
  rw [fill?_eq_some_iff_givenLater makeUp]
  simp [FieldMeaning.GivenLater]

end Fill

/-! ## Elements -/

/-- The record that the elements of a list give to the fields in order.  Fields that
no element is left for must be ones that may be left out. -/
def positional? : List (FieldMeaning α) → α → List Tree → Option α
  | [], value, [] => some value
  | [], _, _ :: _ => none
  | field :: fields, value, [] =>
    if field.presence = .optional then positional? fields value [] else none
  | field :: fields, value, tree :: trees =>
    (field.change? tree).bind fun change => positional? fields (change value) trees

/-! ## Objects -/

namespace Shape

variable {shape : Shape α} {fields : List (FieldMeaning α)} {bound turns : Nat} {first : Bool}
  {seen : List String} {value : α} {text rest : List Char}

/-- A shape is described by the meaning of its fields, each of which is read as
what a tree gives. -/
structure Describes (bound : Nat) (fields : List (FieldMeaning α)) (shape : Shape α) : Prop where
  fields_eq : shape.fields = fields.map FieldMeaning.toRecordField
  implements : ∀ field ∈ fields, Implements bound field.read field.change?

theorem ignoresSpace_members : IgnoresSpace (shape.members bound turns first seen value) := by
  intro space text
  cases turns with
  | zero => rfl
  | succ turns => simp [Shape.members, nextMember]

theorem run?_nextMember_end : (nextMember first).run? ('\x7d' :: rest) = some (false, '\x7d' :: rest) := by
  simp [nextMember, isSpace]

theorem run?_nextMember_first (space before : Space) :
    (nextMember true).run? (space.chars ++ (before.chars ++ '"' :: rest)) = some (true, '"' :: rest) := by
  have solid : isSpace '"' = false := by decide
  simp [nextMember, solid]

theorem run?_nextMember_comma (before : Space) :
    (nextMember false).run? (',' :: (before.chars ++ '"' :: rest)) = some (true, '"' :: rest) := by
  have comma : isSpace ',' = false := by decide
  have solid : isSpace '"' = false := by decide
  simp [nextMember, comma, solid]

theorem run?_colon (before after : Space) :
    colon.run? (before.chars ++ ':' :: (after.chars ++ rest)) = some ((), after.chars ++ rest) := by
  have solid : isSpace ':' = false := by decide
  simp [colon, solid]

theorem missing?_eq_none_iff (describes : Describes bound fields shape) :
    shape.missing? seen = none
      ↔ ∀ field ∈ fields, field.presence = .required → field.name ∈ seen := by
  simp [missing?, describes.fields_eq]

theorem run?_members_end (describes : Describes bound fields shape) :
    (shape.members bound (turns + 1) first seen value).run? ('\x7d' :: rest)
      = (fill? fields seen value []).map fun record => (record, rest) := by
  rw [Shape.members, fill?]
  simp only [← missing?_eq_none_iff describes, Reader.run?_bind, run?_nextMember_end,
    Option.bind_some, Reader.run?_ite, Bool.false_eq_true, if_false]
  cases shape.missing? seen with
  | none => simp
  | some field => simp [failObject]

/-- What is left of a member behind its opening quote. -/
def memberRest (member : MemberName × Document × Space) (rest : List Char) : List Char :=
  member.1.spelled.flatMap SpelledChar.text ++ '"' :: (member.1.beforeColon.chars
    ++ ':' :: (member.1.afterColon.chars ++ (member.2.1.chars ++ (member.2.2.chars ++ rest))))

theorem memberText_append (member : MemberName × Document × Space) :
    Document.memberText member ++ rest
      = member.1.before.chars ++ '"' :: memberRest member rest := by
  simp [Document.memberText, MemberName.text, spelledText, memberRest]

/-- One turn of the reader of an object: the member is put into the record if it
has a field, and is passed over if it has none. -/
theorem run?_members_turn
    {member : MemberName × Document × Space}
    {later : List (String × Tree)}
    {behind : List Char}
    (describes : Describes bound fields shape)
    (fits : member.2.1.chars.length ≤ bound)
    (bounded : Bounded rest)
    (announced : (nextMember first).run? text = some (true, '"' :: memberRest member rest))
    (continues : ∀ seen value,
      (shape.members bound turns false seen value).run? rest
        = (fill? fields seen value later).map fun record => (record, behind)) :
    (shape.members bound (turns + 1) first seen value).run? text
      = (fill? fields seen value (Document.memberTree member :: later)).map
        fun record => (record, behind) := by
  obtain ⟨name, document, after⟩ := member
  have closed := after.bounded bounded
  have found : shape.fields.find? (fun field => field.name == spelledString name.spelled)
      = (fields.find? fun field => field.name == spelledString name.spelled).map
        FieldMeaning.toRecordField := by
    rw [describes.fields_eq, List.find?_map]
    rfl
  rw [Shape.members, Document.memberTree, fill?]
  simp only [Reader.run?_bind, announced, Option.bind_some, Reader.run?_ite, if_true,
    Reader.run?_skipOne, List.tail_cons, memberRest, run?_stringRest, found]
  cases known : fields.find? fun field => field.name == spelledString name.spelled with
  | none =>
      simp only [Option.map_none, Reader.run?_bind, run?_colon, Option.bind_some,
        ignoresSpace_skipValue name.afterColon, decides_skipValue document fits _ closed,
        Option.map_some, ignoresSpace_members after, continues]
  | some field =>
      have inside : field ∈ fields := List.mem_of_find?_eq_some known
      have implements := describes.implements field inside
      simp only [Option.map_some, List.contains_iff_mem, Reader.run?_ite]
      split
      · simp [failObject]
      · simp only [Reader.run?_bind, run?_colon, Option.bind_some,
          implements.ignores name.afterColon, implements.decides document fits _ closed]
        cases field.change? document.tree with
        | none => rfl
        | some change =>
            simp only [Option.map_some, Option.bind_some, ignoresSpace_members after, continues]

theorem run?_members_later
    {entries : List (MemberName × Document × Space)}
    (describes : Describes bound fields shape)
    (fits : ∀ entry ∈ entries, entry.2.1.chars.length ≤ bound)
    (enough : entries.length < turns) :
    (shape.members bound turns false seen value).run?
        (afterCommas (entries.map Document.memberText) ++ '\x7d' :: rest)
      = (fill? fields seen value (entries.map Document.memberTree)).map
        fun record => (record, rest) := by
  induction entries generalizing seen value turns with
  | nil =>
      obtain ⟨turns, rfl⟩ := Nat.exists_eq_add_one_of_ne_zero (Nat.ne_zero_of_lt enough)
      exact run?_members_end describes
  | cons entry entries inductionHypothesis =>
      obtain ⟨turns, rfl⟩ := Nat.exists_eq_add_one_of_ne_zero (Nat.ne_zero_of_lt enough)
      rw [List.length_cons] at enough
      have announced : (nextMember false).run?
          (afterCommas ((entry :: entries).map Document.memberText) ++ '\x7d' :: rest)
            = some (true, '"' :: memberRest entry
              (afterCommas (entries.map Document.memberText) ++ '\x7d' :: rest)) := by
        rw [List.map_cons, afterCommas_cons, List.cons_append, List.append_assoc,
          memberText_append, run?_nextMember_comma]
      apply run?_members_turn describes (fits entry List.mem_cons_self)
        (bounded_closing .object) announced
      intro seen value
      exact inductionHypothesis (fun entry later => fits entry (List.mem_cons_of_mem _ later))
        (Nat.lt_of_succ_lt_succ enough)

theorem run?_members_first
    {entries : List (MemberName × Document × Space)}
    (space : Space)
    (describes : Describes bound fields shape)
    (fits : ∀ entry ∈ entries, entry.2.1.chars.length ≤ bound)
    (enough : entries.length ≤ turns) :
    (shape.members bound (turns + 1) true [] value).run?
        (space.chars ++ (commaJoined (entries.map Document.memberText) ++ '\x7d' :: rest))
      = (fill? fields [] value (entries.map Document.memberTree)).map
        fun record => (record, rest) := by
  cases entries with
  | nil =>
      rw [ignoresSpace_members]
      exact run?_members_end describes
  | cons entry entries =>
      have announced : (nextMember true).run?
          (space.chars ++ (commaJoined ((entry :: entries).map Document.memberText)
            ++ '\x7d' :: rest))
            = some (true, '"' :: memberRest entry
              (afterCommas (entries.map Document.memberText) ++ '\x7d' :: rest)) := by
        rw [List.map_cons, commaJoined, List.append_assoc, memberText_append,
          run?_nextMember_first]
      apply run?_members_turn describes (fits entry List.mem_cons_self)
        (bounded_closing .object) announced
      intro seen value
      exact run?_members_later describes
        (fun entry later => fits entry (List.mem_cons_of_mem _ later)) enough

/-! ## Lists of fields -/

theorem run?_closeList_other {c : Char} (solid : isSpace c = false) (notEnd : c ≠ ']') :
    closeList.run? (c :: text) = none := by
  unfold closeList
  simp [solid, notEnd]

theorem ignoresSpace_positional {known : List (RecordField α)} {count : Nat} :
    IgnoresSpace (shape.positional known count value) := by
  intro space text
  cases known <;> simp [positional, closeList, nextElement]

/-- At the end of the list, the fields that are left must be ones that may be left
out. -/
theorem run?_positional_end {count : Nat} :
    (shape.positional (fields.map FieldMeaning.toRecordField) count value).run? (']' :: rest)
      = (positional? fields value []).map fun record => (record, rest) := by
  induction fields generalizing count with
  | nil => simp [positional, positional?, closeList, isSpace]
  | cons field fields inductionHypothesis =>
      rw [List.map_cons, positional, positional?]
      simp only [Reader.run?_bind, run?_nextElement_end, Option.bind_some, Reader.run?_ite,
        Bool.false_eq_true, if_false, inductionHypothesis]
      split <;> simp

/-- One turn of the reader of a list of fields. -/
theorem run?_positional_turn
    {field : FieldMeaning α}
    {entry : Space × Document × Space}
    {later : List Tree}
    {behind : List Char}
    {count : Nat}
    (implements : Implements bound field.read field.change?)
    (fits : entry.2.1.chars.length ≤ bound)
    (bounded : Bounded rest)
    (announced : (nextElement (count = 0)).run? text
      = some (true, entry.2.1.chars ++ (entry.2.2.chars ++ rest)))
    (continues : ∀ value,
      (shape.positional (fields.map FieldMeaning.toRecordField) (count + 1) value).run? rest
        = (positional? fields value later).map fun record => (record, behind)) :
    (shape.positional ((field :: fields).map FieldMeaning.toRecordField) count value).run? text
      = (positional? (field :: fields) value (entry.2.1.tree :: later)).map
        fun record => (record, behind) := by
  have decided := implements.decides entry.2.1 fits _ (entry.2.2.bounded bounded)
  rw [List.map_cons, positional, positional?]
  simp only [Reader.run?_bind, announced, Option.bind_some, Reader.run?_ite, if_true, decided]
  cases field.change? entry.2.1.tree with
  | none => rfl
  | some change =>
      simp only [Option.map_some, Option.bind_some, ignoresSpace_positional entry.2.2, continues]

theorem run?_positional_later
    {entries : List (Space × Document × Space)}
    {count : Nat}
    (implements : ∀ field ∈ fields, Implements bound field.read field.change?)
    (fits : ∀ entry ∈ entries, entry.2.1.chars.length ≤ bound) :
    (shape.positional (fields.map FieldMeaning.toRecordField) (count + 1) value).run?
        (afterCommas (entries.map Document.elementText) ++ ']' :: rest)
      = (positional? fields value (entries.map fun entry => entry.2.1.tree)).map
        fun record => (record, rest) := by
  induction fields generalizing entries count value with
  | nil =>
      cases entries with
      | nil => exact run?_positional_end
      | cons entry entries =>
          have refused (text : List Char) : closeList.run? (',' :: text) = none :=
            run?_closeList_other (by decide) (by decide)
          rw [List.map_cons, afterCommas_cons, List.cons_append]
          simp [positional, positional?, refused]
  | cons field fields inductionHypothesis =>
      cases entries with
      | nil => exact run?_positional_end
      | cons entry entries =>
          obtain ⟨c, more, spelled, heads⟩ := entry.2.1.chars_eq_cons
          have announced : (nextElement (count + 1 = 0)).run?
              (afterCommas ((entry :: entries).map Document.elementText) ++ ']' :: rest)
                = some (true, entry.2.1.chars ++ (entry.2.2.chars
                  ++ (afterCommas (entries.map Document.elementText) ++ ']' :: rest))) := by
            simp only [List.map_cons, afterCommas_cons, Document.elementText, spelled,
              List.cons_append, List.append_assoc]
            exact run?_nextElement_comma entry.1 heads.inside
          apply run?_positional_turn (implements field List.mem_cons_self)
            (fits entry List.mem_cons_self) bounded_closingList announced
          intro value
          exact inductionHypothesis
            (fun field later => implements field (List.mem_cons_of_mem _ later))
            (fun entry later => fits entry (List.mem_cons_of_mem _ later))

theorem run?_positional_first
    {entries : List (Space × Document × Space)}
    (space : Space)
    (implements : ∀ field ∈ fields, Implements bound field.read field.change?)
    (fits : ∀ entry ∈ entries, entry.2.1.chars.length ≤ bound) :
    (shape.positional (fields.map FieldMeaning.toRecordField) 0 value).run?
        (space.chars ++ (commaJoined (entries.map Document.elementText) ++ ']' :: rest))
      = (positional? fields value (entries.map fun entry => entry.2.1.tree)).map
        fun record => (record, rest) := by
  cases entries with
  | nil =>
      rw [ignoresSpace_positional]
      exact run?_positional_end
  | cons entry entries =>
      obtain ⟨c, more, spelled, heads⟩ := entry.2.1.chars_eq_cons
      cases fields with
      | nil =>
          have refused (text : List Char) : closeList.run? (c :: text) = none :=
            run?_closeList_other (isSpace_of_not_isBoundary heads.inside)
              (ne_of_not_isBoundary heads.inside (by decide))
          rw [ignoresSpace_positional, List.map_cons, commaJoined, Document.elementText,
            List.append_assoc, List.append_assoc, List.append_assoc, ignoresSpace_positional,
            spelled]
          simp [positional, positional?, refused]
      | cons field fields =>
          have announced : (nextElement (0 = 0)).run? (space.chars
              ++ (commaJoined ((entry :: entries).map Document.elementText) ++ ']' :: rest))
                = some (true, entry.2.1.chars ++ (entry.2.2.chars
                  ++ (afterCommas (entries.map Document.elementText) ++ ']' :: rest))) := by
            simp only [List.map_cons, commaJoined, Document.elementText, spelled,
              List.cons_append, List.append_assoc]
            exact run?_nextElement_first space entry.1 heads.inside
          apply run?_positional_turn (implements field List.mem_cons_self)
            (fits entry List.mem_cons_self) bounded_closingList announced
          intro value
          exact run?_positional_later
            (fun field later => implements field (List.mem_cons_of_mem _ later))
            (fun entry later => fits entry (List.mem_cons_of_mem _ later))

end Shape

/-! ## Records -/

/-- The record that a tree gives: an object by its members, a list by its
elements. -/
def Tree.record? (fields : List (FieldMeaning α)) (blank : α) : Tree → Option α
  | .object members => fill? fields [] blank members
  | .list elements => positional? fields blank elements
  | _ => none

theorem Shape.Describes.implements_record
    {shape : Shape α}
    {fields : List (FieldMeaning α)}
    {bound : Nat}
    (describes : shape.Describes bound fields) :
    Implements bound (record shape bound) (Tree.record? fields shape.blank) where
  ignores := ignoresSpace_valueStart
  decides document fits rest _ := by
    obtain ⟨c, more, spelled, heads⟩ := document.chars_eq_cons
    have solid := isSpace_of_not_isBoundary heads.inside
    by_cases bracket : c = '['
    · obtain ⟨space, entries, rfl⟩ := heads.list.mp bracket
      have loop : (shape.positional shape.fields 0 shape.blank).run?
          (space.chars ++ (commaJoined (entries.map Document.elementText) ++ ']' :: rest))
            = (positional? fields shape.blank (entries.map fun entry => entry.2.1.tree)).map
              fun record => (record, rest) := by
        rw [describes.fields_eq]
        exact Shape.run?_positional_first space describes.implements
          fun entry inside => Nat.le_trans (Document.length_le_list_of_mem inside) fits
      rw [Document.chars_list, Document.tree_list]
      simpa [record, isSpace, Tree.record?] using loop
    by_cases brace : c = '\x7b'
    · obtain ⟨space, entries, rfl⟩ := heads.object.mp brace
      have loop : (shape.members bound (bound + 1) true [] shape.blank).run?
          (space.chars ++ (commaJoined (entries.map Document.memberText) ++ '\x7d' :: rest))
            = (fill? fields [] shape.blank (entries.map Document.memberTree)).map
              fun record => (record, rest) :=
        Shape.run?_members_first space describes
          (fun entry inside => Nat.le_trans (Document.length_le_object_of_mem inside) fits)
          (Nat.le_trans Document.length_members_le fits)
      rw [Document.chars_object, Document.tree_object]
      simpa [record, isSpace, Tree.record?] using loop
    · have other : document.tree.record? fields shape.blank = none := by
        cases document with
        | list space entries => exact absurd (heads.list.mpr ⟨space, entries, rfl⟩) bracket
        | object space entries => exact absurd (heads.object.mpr ⟨space, entries, rfl⟩) brace
        | _ => rfl
      simp [spelled, record, solid, bracket, brace, other, run?_wrongKind]

end Findings.Json
