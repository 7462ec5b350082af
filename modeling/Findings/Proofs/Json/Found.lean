import Mathlib
import Findings.Proofs.Json.Fields
import Findings.Proofs.Json.PassedOver

/-!
Contract: what a typed reader takes is a document that means the value it gives.

Owns:
- `Finds`, the converse of the law that documents are decided: wherever a reader
  gives a value, there is a document of that meaning;
- the law for strings, integers, values that may be null, lists and records.

The text is not assumed to be a document.  That it is one as far as the reader went
is part of what is found.
-/

namespace Findings.Json

variable {α : Type} {text rest behind : List Char} {c : Char}

def Space.append (space more : Space) : Space where
  chars := space.chars ++ more.chars
  blank c inside := (List.mem_append.mp inside).elim (space.blank c) (more.blank c)

/-- Where a reader gives a value, the text starts with a document of this meaning. -/
def Finds (reader : Reader α) (meaning : Tree → Option α) : Prop :=
  ∀ text value rest, reader.run? text = some (value, rest) →
    ∃ (before : Space) (piece : List Char) (tree : Tree),
      text = before.chars ++ (piece ++ rest) ∧ Depicts piece tree ∧ meaning tree = some value

theorem Finds.map {β : Type} {reader : Reader α} {meaning : Tree → Option α}
    (finds : Finds reader meaning) (change : α → β) :
    Finds (change <$> reader) fun tree => (meaning tree).map change := by
  intro text value rest taken
  obtain ⟨⟨found, behind⟩, read, same⟩ := Option.map_eq_some_iff.mp (Reader.run?_map ▸ taken)
  obtain ⟨rfl, rfl⟩ := Prod.mk.inj same
  obtain ⟨before, piece, tree, spelled, depicts, means⟩ := finds text found behind read
  exact ⟨before, piece, tree, spelled, depicts, by simp only [means, Option.map_some]⟩

/-! ## Scalars -/

theorem of_valueStart (taken : valueStart.run? text = some (c, behind)) :
    ∃ (space : Space) (more : List Char), behind = c :: more ∧ text = space.chars ++ c :: more := by
  unfold valueStart at taken
  replace taken := of_skipSpace taken
  obtain ⟨space, front, rfl, taken⟩ := taken
  cases front with
  | nil => simp at taken
  | cons first front =>
      obtain ⟨rfl, rfl⟩ : first = c ∧ first :: front = behind := by simpa using taken
      exact ⟨space, front, rfl, rfl⟩

theorem writtenText_whole {spelled : List SpelledChar} :
    writtenText (spelled.map .whole) = spelledText spelled := by
  simp [writtenText, spelledText, List.flatMap_map, WrittenChar.text]

theorem writtenString_whole {spelled : List SpelledChar} :
    writtenString (spelled.map .whole) = spelledString spelled := by
  simp [writtenString, spelledString, Function.comp_def, WrittenChar.char]

theorem finds_string {expected : String} : Finds (string expected) Tree.text? := by
  intro text value rest taken
  rw [string, Reader.run?_bind, Option.bind_eq_some_iff] at taken
  obtain ⟨⟨c, _⟩, start, taken⟩ := taken
  obtain ⟨space, more, rfl, rfl⟩ := of_valueStart start
  simp only [Reader.run?_ite, run?_wrongKind, Option.ite_none_right_eq_some] at taken
  obtain ⟨rfl, string⟩ := taken
  obtain ⟨spelled, rfl, rfl⟩ := exists_spelled_of_stringRest more string
  refine ⟨space, _, _, ?_, .text (spelled.map .whole), by rw [writtenString_whole, Tree.text?]⟩
  rw [writtenText_whole, spelledText]
  simp

theorem integer?_text {least greatest value : Int} {number : NumberText}
    (written : number.integer? = some value) (inside : least ≤ value ∧ value ≤ greatest) :
    (Tree.number number).integer? least greatest = some value := by
  simp [Tree.integer?, written, inside]

theorem finds_integer {least greatest : Int} {expected : String} :
    Finds (integer least greatest expected) (Tree.integer? least greatest) := by
  intro text value rest taken
  rw [integer, Reader.run?_bind, Option.bind_eq_some_iff] at taken
  obtain ⟨⟨c, _⟩, start, taken⟩ := taken
  obtain ⟨space, more, rfl, rfl⟩ := of_valueStart start
  simp only [Reader.run?_ite, run?_wrongKind, Option.ite_none_right_eq_some] at taken
  obtain ⟨-, taken⟩ := taken
  split at taken
  · rename_i minus
    rw [Reader.run?_bind, Reader.run?_skipOne, Option.bind_some, Reader.run?_bind,
      Option.bind_eq_some_iff] at taken
    obtain ⟨⟨read, after⟩, number, taken⟩ := taken
    cases read with
    | floating value => simp at taken
    | integer read =>
        obtain ⟨inside, rfl, rfl⟩ : (least ≤ read ∧ read ≤ greatest) ∧ read = value ∧ after = rest := by
          simpa using taken
        subst minus
        obtain ⟨number, negative, spelled, written⟩ := exists_integer more number
        refine ⟨space, number.text, _, ?_, .number number, integer?_text written inside⟩
        rw [spelled, NumberText.text, negative, if_pos (by rfl), List.cons_append]
  · rename_i unsigned
    rw [Reader.run?_bind, Option.bind_eq_some_iff] at taken
    obtain ⟨⟨read, after⟩, number, taken⟩ := taken
    cases read with
    | floating value => simp at taken
    | integer read =>
        obtain ⟨inside, rfl, rfl⟩ : (least ≤ read ∧ read ≤ greatest) ∧ read = value ∧ after = rest := by
          simpa using taken
        obtain ⟨number, positive, spelled, written⟩ := exists_integer _ number
        refine ⟨space, number.text, _, ?_, .number number, integer?_text written inside⟩
        rw [spelled, NumberText.text, positive, if_neg (by simpa using unsigned)]

theorem Finds.nullable {reader : Reader α} {meaning : Tree → Option α}
    (finds : Finds reader meaning) (refuses : meaning .null = none) :
    Finds (nullable reader) (Tree.nullable? meaning) := by
  intro text value rest taken
  unfold Json.nullable at taken
  replace taken := of_skipSpace taken
  obtain ⟨space, front, rfl, taken⟩ := taken
  split at taken
  · rename_i null
    obtain ⟨more, rfl⟩ := List.head?_eq_some_iff.mp null
    rw [Reader.run?_bind, Reader.run?_skipOne, Option.bind_some, Reader.run?_bind,
      Option.bind_eq_some_iff] at taken
    obtain ⟨⟨⟨⟩, after⟩, name, taken⟩ := taken
    obtain ⟨rfl, rfl⟩ : none = value ∧ after = rest := by simpa using taken
    have whole : more = ['u', 'l', 'l'] ++ after := eq_of_run?_literalRest name
    exact ⟨space, _, _, by rw [whole]; rfl, .null, rfl⟩
  · rename_i notNull
    obtain ⟨found, read, rfl⟩ : ∃ found, reader.run? front = some (found, rest)
        ∧ some found = value := by
      simpa using taken
    obtain ⟨before, piece, tree, rfl, depicts, means⟩ := finds front found rest read
    refine ⟨space.append before, piece, tree, by simp [Space.append], depicts, ?_⟩
    cases tree with
    | null => rw [refuses] at means; contradiction
    | _ => simp [Tree.nullable?, means]

/-! ## Lists -/

/-- What stands in front of an entry that is or is not the first. -/
def separator (first : Bool) : List Char :=
  if first then [] else [',']

/-- Entries of which the first is or is not the first of all. -/
def entriesFrom (first : Bool) : List (List Char) → List Char
  | [] => []
  | piece :: more => separator first ++ (piece ++ afterCommas more)

theorem entriesFrom_true {pieces : List (List Char)} : entriesFrom true pieces = commaJoined pieces := by
  cases pieces <;> rfl

theorem entriesFrom_false {pieces : List (List Char)} :
    entriesFrom false pieces = afterCommas pieces := by
  cases pieces with
  | nil => rfl
  | cons piece more => rw [afterCommas_cons]; rfl

theorem of_closeList (taken : closeList.run? text = some ((), rest)) :
    ∃ gap : Space, text = gap.chars ++ ']' :: rest := by
  unfold closeList at taken
  replace taken := of_skipSpace taken
  obtain ⟨gap, front, rfl, taken⟩ := taken
  cases front with
  | nil => simp at taken
  | cons c front =>
      simp only [List.head?_cons] at taken
      split at taken
      · rename_i closing
        obtain rfl : front = rest := by simpa using taken
        exact ⟨gap, by rw [closing]⟩
      split at taken
      · simp at taken
      · simp at taken

/-- Either the list ends, or another element comes behind the comma that it needs. -/
theorem of_nextElement {first another : Bool}
    (taken : (nextElement first).run? text = some (another, behind)) :
    ∃ gap : Space,
      (another = false ∧ text = gap.chars ++ behind ∧ ∃ after, behind = ']' :: after)
        ∨ (another = true
          ∧ ∃ space : Space, text = gap.chars ++ (separator first ++ (space.chars ++ behind))) := by
  unfold nextElement at taken
  replace taken := of_skipSpace taken
  obtain ⟨gap, front, rfl, taken⟩ := taken
  refine ⟨gap, ?_⟩
  cases front with
  | nil => simp at taken
  | cons c front =>
      simp only [List.head?_cons] at taken
      split at taken
      · rename_i closing
        obtain ⟨rfl, rfl⟩ : false = another ∧ c :: front = behind := by simpa using taken
        exact .inl ⟨rfl, rfl, front, by rw [closing]⟩
      split at taken
      · rename_i isFirst
        obtain ⟨rfl, rfl⟩ : true = another ∧ c :: front = behind := by simpa using taken
        exact .inr ⟨rfl, .none, by simp [separator, isFirst, Space.none]⟩
      split at taken
      · rename_i isFirst comma
        rw [Reader.run?_bind, Reader.run?_skipOne, Option.bind_some, List.tail_cons] at taken
        replace taken := of_skipSpace taken
        obtain ⟨space, rest, rfl, taken⟩ := taken
        cases rest with
        | nil => simp at taken
        | cons d rest =>
            obtain ⟨-, rfl, rfl⟩ : d ≠ ']' ∧ true = another ∧ d :: rest = behind := by
              simpa using taken
            exact .inr ⟨rfl, space, by simp [separator, isFirst, comma]⟩
      · simp at taken

/-- The elements that a reader of a list takes, after those already read. -/
theorem of_elements (text : List Char) {element : Reader α} {meaning : Tree → Option α} {turns : Nat} {first : Bool}
    {read values : List α}
    (finds : Finds element meaning)
    (taken : (elements element turns first read).run? text = some (values, rest)) :
    ∃ (gap : Space) (entries : List DepictedElement) (later : List α),
      (∀ entry ∈ entries, Depicts entry.piece entry.tree)
        ∧ text = gap.chars ++ (entriesFrom first (entries.map DepictedElement.text) ++ ']' :: rest)
        ∧ (entries.map DepictedElement.tree).mapM meaning = some later
        ∧ values = read.reverse ++ later := by
  induction turns generalizing text first read with
  | zero => simp [elements] at taken
  | succ turns inductionHypothesis =>
      rw [elements, Reader.run?_bind, Option.bind_eq_some_iff] at taken
      obtain ⟨⟨another, behind⟩, next, taken⟩ := taken
      obtain ⟨gap, ⟨rfl, rfl, after, rfl⟩ | ⟨rfl, space, rfl⟩⟩ := of_nextElement next
      case inl =>
        obtain ⟨rfl, rfl⟩ : read.reverse = values ∧ after = rest := by
          simpa [closeList, isSpace] using taken
        exact ⟨gap, [], [], by simp, rfl, rfl, by simp⟩
      case inr =>
        simp only [if_true, Reader.run?_bind, Option.bind_eq_some_iff] at taken
        obtain ⟨⟨value, _⟩, here, taken⟩ := taken
        obtain ⟨before, piece, tree, rfl, depicts, means⟩ := finds _ _ _ here
        obtain ⟨after, entries, later, each, rfl, all, rfl⟩ := inductionHypothesis _ taken
        let entry : DepictedElement := ⟨space.append before, piece, tree, after⟩
        refine ⟨gap, entry :: entries, value :: later, ?_, ?_, ?_, by simp⟩
        · exact List.forall_mem_cons.mpr ⟨depicts, each⟩
        · rw [entriesFrom_false, List.map_cons, entriesFrom]
          simp [entry, DepictedElement.text, Space.append]
        · rw [List.map_cons, List.mapM_cons, means, all]
          rfl

theorem Finds.list {element : Reader α} {meaning : Tree → Option α} {bound : Nat}
    (finds : Finds element meaning) : Finds (list element bound) (Tree.list? meaning) := by
  intro text values rest taken
  rw [Json.list, Reader.run?_bind, Option.bind_eq_some_iff] at taken
  obtain ⟨⟨c, _⟩, start, taken⟩ := taken
  obtain ⟨space, more, rfl, rfl⟩ := of_valueStart start
  simp only [Reader.run?_ite, run?_wrongKind, Option.ite_none_right_eq_some] at taken
  obtain ⟨rfl, taken⟩ := taken
  obtain ⟨gap, entries, later, each, spelled, all, rfl⟩ := of_elements more finds taken
  refine ⟨space, _, _, ?_, .list gap entries each, ?_⟩
  · rw [spelled, entriesFrom_true]
    simp
  · simpa [Tree.list?] using all

/-! ## Objects -/

namespace Shape

theorem of_nextMember {first another : Bool}
    (taken : (nextMember first).run? text = some (another, behind)) :
    ∃ gap : Space,
      (another = false ∧ text = gap.chars ++ behind ∧ ∃ after, behind = '\x7d' :: after)
        ∨ (another = true ∧ ∃ (space : Space) (more : List Char), behind = '"' :: more
          ∧ text = gap.chars ++ (separator first ++ (space.chars ++ behind))) := by
  unfold nextMember at taken
  replace taken := of_skipSpace taken
  obtain ⟨gap, front, rfl, taken⟩ := taken
  refine ⟨gap, ?_⟩
  cases front with
  | nil => simp at taken
  | cons c front =>
      simp only [List.head?_cons] at taken
      split at taken
      · rename_i closing
        obtain ⟨rfl, rfl⟩ : false = another ∧ c :: front = behind := by simpa using taken
        exact .inl ⟨rfl, rfl, front, by rw [closing]⟩
      split at taken
      · rename_i isFirst
        obtain ⟨rfl, rfl, rfl⟩ : c = '"' ∧ true = another ∧ c :: front = behind := by
          simpa using taken
        exact .inr ⟨rfl, .none, front, rfl, by simp [separator, isFirst, Space.none]⟩
      split at taken
      · rename_i isFirst comma
        rw [Reader.run?_bind, Reader.run?_skipOne, Option.bind_some, List.tail_cons] at taken
        replace taken := of_skipSpace taken
        obtain ⟨space, rest, rfl, taken⟩ := taken
        cases rest with
        | nil => simp at taken
        | cons d rest =>
            simp only [List.head?_cons] at taken
            split at taken
            · rename_i quote
              obtain ⟨rfl, rfl⟩ : true = another ∧ d :: rest = behind := by simpa using taken
              exact .inr ⟨rfl, space, rest, by rw [quote], by simp [separator, isFirst, comma]⟩
            split at taken
            · simp at taken
            · simp at taken
      · simp at taken

theorem of_colon (taken : colon.run? text = some ((), rest)) :
    ∃ gap : Space, text = gap.chars ++ ':' :: rest := by
  unfold colon at taken
  replace taken := of_skipSpace taken
  obtain ⟨gap, front, rfl, taken⟩ := taken
  cases front with
  | nil => simp at taken
  | cons c front =>
      obtain ⟨rfl, rfl⟩ : c = ':' ∧ front = rest := by simpa using taken
      exact ⟨gap, rfl⟩

variable {shape : Shape α} {fields : List (FieldMeaning α)} {bound : Nat}

theorem find?_fields (describes : shape.Describes bound fields) {name : String} :
    shape.fields.find? (fun field => field.name == name)
      = (fields.find? fun field => field.name == name).map FieldMeaning.toRecordField := by
  rw [describes.fields_eq, List.find?_map]
  rfl

def readMember (space : Space) (name : List SpelledChar) (beforeColon before : Space)
    (piece : List Char) (tree : Tree) (after : Space) : DepictedMember :=
  ⟨space, name.map .whole, beforeColon, before, piece, tree, after⟩

section ReadMember

variable {space beforeColon before after : Space} {name : List SpelledChar} {piece : List Char}
  {tree : Tree} {first : Bool} {entries : List DepictedMember}

theorem entry_readMember :
    (readMember space name beforeColon before piece tree after).entry
      = (spelledString name, tree) := by
  rw [DepictedMember.entry, readMember, writtenString_whole]

theorem entriesFrom_readMember :
    entriesFrom first
        ((readMember space name beforeColon before piece tree after :: entries).map
          DepictedMember.text) ++ '\x7d' :: rest
      = separator first ++ (space.chars ++ '"' :: (name.flatMap SpelledChar.text
        ++ '"' :: (beforeColon.chars ++ ':' :: (before.chars ++ (piece ++ (after.chars
          ++ (entriesFrom false (entries.map DepictedMember.text) ++ '\x7d' :: rest))))))) := by
  rw [entriesFrom_false, List.map_cons, entriesFrom, DepictedMember.text, readMember,
    writtenText_whole, spelledText]
  simp

end ReadMember

/-- The members that a reader of an object takes, after those that were seen. -/
theorem of_members (text : List Char) {turns : Nat} {first : Bool} {seen : List String} {value record : α}
    (describes : shape.Describes bound fields)
    (finds : ∀ field ∈ fields, Finds field.read field.change?)
    (taken : (shape.members bound turns first seen value).run? text = some (record, rest)) :
    ∃ (gap : Space) (entries : List DepictedMember),
      (∀ entry ∈ entries, Depicts entry.piece entry.tree)
        ∧ text = gap.chars ++ (entriesFrom first (entries.map DepictedMember.text) ++ '\x7d' :: rest)
        ∧ fill? fields seen value (entries.map DepictedMember.entry) = some record := by
  induction turns generalizing text first seen value with
  | zero => simp [Shape.members] at taken
  | succ turns inductionHypothesis =>
      rw [Shape.members, Reader.run?_bind, Option.bind_eq_some_iff] at taken
      obtain ⟨⟨another, behind⟩, next, taken⟩ := taken
      obtain ⟨gap, ⟨rfl, rfl, after, rfl⟩ | ⟨rfl, space, more, rfl, rfl⟩⟩ := of_nextMember next
      case inl =>
        simp only [Bool.false_eq_true, if_false] at taken
        cases missing : shape.missing? seen with
        | some field => simp [missing, failObject] at taken
        | none =>
            obtain ⟨rfl, rfl⟩ : value = record ∧ after = rest := by simpa [missing] using taken
            refine ⟨gap, [], by simp, rfl, ?_⟩
            rw [List.map_nil, fill?, if_pos ((missing?_eq_none_iff describes).mp missing)]
      case inr =>
        simp only [if_true] at taken
        rw [Reader.run?_bind, Reader.run?_skipOne, Option.bind_some, Reader.run?_bind,
          Option.bind_eq_some_iff] at taken
        obtain ⟨⟨_, _⟩, string, taken⟩ := taken
        obtain ⟨name, rfl, rfl⟩ := exists_spelled_of_stringRest more string
        rw [find?_fields describes] at taken
        cases known : fields.find? fun field => field.name == spelledString name with
        | none =>
            simp only [known, Option.map_none, Reader.run?_bind, Option.bind_eq_some_iff] at taken
            obtain ⟨⟨⟨⟩, _⟩, atColon, ⟨⟨⟩, _⟩, passed, taken⟩ := taken
            obtain ⟨beforeColon, rfl⟩ := of_colon atColon
            obtain ⟨before, piece, tree, rfl, depicts⟩ := exists_depicts_of_skipValue passed
            obtain ⟨after, entries, each, rfl, filled⟩ := inductionHypothesis _ taken
            let member := readMember space name beforeColon before piece tree after
            refine ⟨gap, member :: entries, List.forall_mem_cons.mpr ⟨depicts, each⟩,
              congrArg _ entriesFrom_readMember.symm, ?_⟩
            rw [List.map_cons, entry_readMember, fill?, known]
            exact filled
        | some field =>
            simp only [known, Option.map_some, Reader.run?_ite] at taken
            split at taken
            · simp [failObject] at taken
            rename_i fresh
            simp only [Reader.run?_bind, Option.bind_eq_some_iff] at taken
            obtain ⟨⟨⟨⟩, _⟩, atColon, ⟨change, _⟩, read, taken⟩ := taken
            obtain ⟨beforeColon, rfl⟩ := of_colon atColon
            obtain ⟨before, piece, tree, rfl, depicts, means⟩ :=
              finds field (List.mem_of_find?_eq_some known) _ _ _ read
            obtain ⟨after, entries, each, rfl, filled⟩ := inductionHypothesis _ taken
            let member := readMember space name beforeColon before piece tree after
            refine ⟨gap, member :: entries, List.forall_mem_cons.mpr ⟨depicts, each⟩,
              congrArg _ entriesFrom_readMember.symm, ?_⟩
            have new : spelledString name ∉ seen := by simpa using fresh
            rw [List.map_cons, entry_readMember, fill?, known]
            simp only [if_neg new, means, Option.bind_some]
            exact filled

/-! ## Lists of fields -/

/-- The elements that a reader of a list of fields takes. -/
theorem of_positional (text : List Char) {count : Nat} {value record : α}
    (finds : ∀ field ∈ fields, Finds field.read field.change?)
    (taken : (shape.positional (fields.map FieldMeaning.toRecordField) count value).run? text
      = some (record, rest)) :
    ∃ (gap : Space) (entries : List DepictedElement),
      (∀ entry ∈ entries, Depicts entry.piece entry.tree)
        ∧ text = gap.chars
          ++ (entriesFrom (count = 0) (entries.map DepictedElement.text) ++ ']' :: rest)
        ∧ positional? fields value (entries.map DepictedElement.tree) = some record := by
  induction fields generalizing text count value with
  | nil =>
      rw [List.map_nil, positional, Reader.run?_bind, Option.bind_eq_some_iff] at taken
      obtain ⟨⟨⟨⟩, after⟩, closes, taken⟩ := taken
      obtain ⟨gap, rfl⟩ := of_closeList closes
      obtain ⟨rfl, rfl⟩ : value = record ∧ after = rest := by simpa using taken
      exact ⟨gap, [], by simp, rfl, rfl⟩
  | cons field fields inductionHypothesis =>
      rw [List.map_cons, positional, Reader.run?_bind, Option.bind_eq_some_iff] at taken
      obtain ⟨⟨another, behind⟩, next, taken⟩ := taken
      obtain ⟨gap, ⟨rfl, rfl, after, rfl⟩ | ⟨rfl, space, rfl⟩⟩ := of_nextElement next
      case inl =>
        -- nothing is left, so the other fields are left out, too
        simp only [Bool.false_eq_true, if_false] at taken
        split at taken
        · rename_i optional
          rw [run?_positional_end] at taken
          obtain ⟨_, filled, same⟩ := Option.map_eq_some_iff.mp taken
          obtain ⟨rfl, rfl⟩ := Prod.mk.inj same
          refine ⟨gap, [], by simp, rfl, ?_⟩
          rw [List.map_nil, positional?, if_pos optional, filled]
        · simp at taken
      case inr =>
        simp only [if_true, Reader.run?_bind, Option.bind_eq_some_iff] at taken
        obtain ⟨⟨change, _⟩, read, taken⟩ := taken
        obtain ⟨before, piece, tree, rfl, depicts, means⟩ :=
          finds field List.mem_cons_self _ _ _ read
        obtain ⟨after, entries, each, rfl, filled⟩ :=
          inductionHypothesis _ (fun field later => finds field (List.mem_cons_of_mem _ later)) taken
        let entry : DepictedElement := ⟨space.append before, piece, tree, after⟩
        refine ⟨gap, entry :: entries, List.forall_mem_cons.mpr ⟨depicts, each⟩, ?_, ?_⟩
        · rw [decide_eq_false (Nat.succ_ne_zero count), entriesFrom_false, List.map_cons, entriesFrom]
          simp [entry, DepictedElement.text, Space.append]
        · rw [List.map_cons, positional?, means, Option.bind_some]
          exact filled

/-- A record is found in an object or in a list. -/
theorem Describes.finds_record
    (describes : shape.Describes bound fields)
    (finds : ∀ field ∈ fields, Finds field.read field.change?) :
    Finds (record shape bound) (Tree.record? fields shape.blank) := by
  intro text value rest taken
  rw [record, Reader.run?_bind, Option.bind_eq_some_iff] at taken
  obtain ⟨⟨c, _⟩, start, taken⟩ := taken
  obtain ⟨space, more, rfl, rfl⟩ := of_valueStart start
  simp only [Reader.run?_ite] at taken
  split at taken
  · rename_i bracket
    rw [describes.fields_eq] at taken
    obtain ⟨gap, entries, each, spelled, filled⟩ := of_positional more finds taken
    refine ⟨space, _, _, ?_, .list gap entries each, filled⟩
    rw [bracket, spelled, decide_eq_true rfl, entriesFrom_true]
    simp
  split at taken
  · rename_i brace
    obtain ⟨gap, entries, each, spelled, filled⟩ := of_members more describes finds taken
    refine ⟨space, _, _, ?_, .object gap entries each, filled⟩
    rw [brace, spelled, entriesFrom_true]
    simp
  · rw [run?_wrongKind] at taken
    contradiction

end Shape

/-! ## Whole texts -/

/-- Behind a document there is only white space. -/
theorem exists_after_of_document {reader : Reader α} {value : α}
    (whole : document reader text = .ok value) :
    ∃ after : Space, reader.run? text = some (value, after.chars) := by
  unfold document at whole
  cases read : reader.run text with
  | error fault => simp [read, bind, Except.bind] at whole
  | ok taken =>
      obtain ⟨found, rest⟩ := taken
      simp only [read, ok_bind] at whole
      split at whole
      · rename_i blank
        obtain rfl := Except.ok.inj whole
        have spaces : ∀ c ∈ rest, isSpace c = true := List.dropWhile_eq_nil_iff.mp blank
        refine ⟨⟨rest, spaces⟩, ?_⟩
        rw [Reader.run?, read]
        rfl
      · contradiction

end Findings.Json
