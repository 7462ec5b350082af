import Findings.Proofs.Json.Skip

/-!
Contract: readers decide what documents say.

Owns:
- `Implements`, the law that a reader takes every document for what a function on
  trees makes of it, and refuses it where the function gives nothing;
- the functions on trees that strings, integers, values that may be null and
  lists stand for, and their laws;
- what comes between the elements of a list.

Documents are bounded in length, because the readers count their turns.

Does not own: records.
-/

namespace Findings.Json

variable {α : Type} {bound : Nat} {text rest : List Char} {c : Char}

/-- A reader gives what a function makes of the tree of a document, whatever the
document looks like, and passes over white space in front of it. -/
structure Implements (bound : Nat) (reader : Reader α) (meaning : Tree → Option α) : Prop where
  ignores : IgnoresSpace reader
  decides : ∀ document : Document, document.chars.length ≤ bound →
    Decides reader document.chars (meaning document.tree)

theorem Implements.map {β : Type} {reader : Reader α} {meaning : Tree → Option α}
    (implements : Implements bound reader meaning) (change : α → β) :
    Implements bound (change <$> reader) fun tree => (meaning tree).map change where
  ignores := implements.ignores.map
  decides document fits := (implements.decides document fits).map change

/-! ## Scalars -/

namespace Tree

def text? : Tree → Option String
  | .text value => some value
  | _ => none

/-- The integer between two bounds that a tree is. -/
def integer? (least greatest : Int) : Tree → Option Int
  | .number written => written.integer?.filter fun value => least ≤ value ∧ value ≤ greatest
  | _ => none

def nullable? (meaning : Tree → Option α) : Tree → Option (Option α)
  | .null => some none
  | tree => (meaning tree).map some

def list? (meaning : Tree → Option α) : Tree → Option (List α)
  | .list elements => elements.mapM meaning
  | _ => none

end Tree

theorem implements_string {expected : String} : Implements bound (string expected) Tree.text? where
  ignores := ignoresSpace_valueStart
  decides document _ rest _ := by
    obtain ⟨c, more, spelled, heads⟩ := document.chars_eq_cons
    have solid := isSpace_of_not_isBoundary heads.inside
    by_cases quote : c = '"'
    · obtain ⟨written, rfl⟩ := heads.text.mp quote
      simp [Document.chars, spelledText, string, isSpace, run?_stringRest, Document.tree,
        Tree.text?]
    · have other : document.tree.text? = none := by
        cases document with
        | text written => exact absurd (heads.text.mpr ⟨written, rfl⟩) quote
        | _ => rfl
      simp [spelled, string, solid, quote, other, run?_wrongKind]

theorem implements_integer
    {least greatest : Int}
    {expected : String}
    (representable : Int64.minValue.toInt ≤ least ∧ greatest ≤ significandLimit) :
    Implements bound (integer least greatest expected) (Tree.integer? least greatest) where
  ignores := ignoresSpace_valueStart
  decides document _ := by
    obtain ⟨c, more, spelled, heads⟩ := document.chars_eq_cons
    have solid := isSpace_of_not_isBoundary heads.inside
    by_cases numeric : c = '-' ∨ c.isDigit = true
    · obtain ⟨written, rfl⟩ := heads.number.mp numeric
      rw [Document.chars, Document.tree]
      exact decides_integer written representable
    · have other : document.tree.integer? least greatest = none := by
        cases document with
        | number written => exact absurd (heads.number.mpr ⟨written, rfl⟩) numeric
        | _ => rfl
      intro rest _
      simp [spelled, integer, solid, numeric, other, run?_wrongKind]

theorem Implements.nullable {reader : Reader α} {meaning : Tree → Option α}
    (implements : Implements bound reader meaning) :
    Implements bound (nullable reader) (Tree.nullable? meaning) where
  ignores := ignoresSpace_skipSpace
  decides document fits rest bounded := by
    obtain ⟨c, more, spelled, heads⟩ := document.chars_eq_cons
    have solid := isSpace_of_not_isBoundary heads.inside
    by_cases null : c = 'n'
    · obtain rfl := heads.null.mp null
      have null : (literalRest ['u', 'l', 'l']).run? ('u' :: 'l' :: 'l' :: rest) = some ((), rest) :=
        Reader.run?_literalRest
      simp [Document.chars, Json.nullable, isSpace, null, Document.tree, Tree.nullable?]
    · have other : document.tree.nullable? meaning = (meaning document.tree).map some := by
        cases document with
        | null => exact absurd (heads.null.mpr rfl) null
        | _ => rfl
      have read := (implements.decides document fits).map some rest bounded
      rw [spelled, List.cons_append] at read
      rw [other, ← read, spelled]
      simp [Json.nullable, solid, null]

/-! ## Lists -/

theorem bounded_closingList {pieces : List (List Char)} :
    Bounded (afterCommas pieces ++ ']' :: rest) :=
  bounded_closing .list

theorem ignoresSpace_nextElement {next : Bool → Reader α} {first : Bool} :
    IgnoresSpace (nextElement first >>= next) := by
  intro space text
  simp [nextElement]

theorem run?_nextElement_end {first : Bool} :
    (nextElement first).run? (']' :: rest) = some (false, ']' :: rest) := by
  simp [nextElement, isSpace]

theorem run?_nextElement_first (space before : Space) (inside : isBoundary c = false) :
    (nextElement true).run? (space.chars ++ (before.chars ++ c :: text)) = some (true, c :: text) := by
  have solid := isSpace_of_not_isBoundary inside
  have notEnd : c ≠ ']' := ne_of_not_isBoundary inside (by decide)
  simp [nextElement, solid, notEnd]

theorem run?_nextElement_comma (before : Space) (inside : isBoundary c = false) :
    (nextElement false).run? (',' :: (before.chars ++ c :: text)) = some (true, c :: text) := by
  have solid := isSpace_of_not_isBoundary inside
  have notEnd : c ≠ ']' := ne_of_not_isBoundary inside (by decide)
  have comma : isSpace ',' = false := by decide
  simp [nextElement, comma, solid, notEnd]

section Elements

variable {element : Reader α} {meaning : Tree → Option α} {turns : Nat} {first : Bool}
  {read : List α}

theorem ignoresSpace_elements : IgnoresSpace (elements element turns first read) := by
  cases turns with
  | zero => exact fun _ _ => rfl
  | succ turns =>
      rw [elements]
      exact ignoresSpace_nextElement

theorem run?_elements_end :
    (elements element (turns + 1) first read).run? (']' :: rest) = some (read.reverse, rest) := by
  simp [elements, run?_nextElement_end, closeList, isSpace]

/-- What the elements stand for, after those already read. -/
def elementsRead
    (meaning : Tree → Option α)
    (read : List α)
    (entries : List (Space × Document × Space)) :
    Option (List α) :=
  ((entries.map fun entry => entry.2.1.tree).mapM meaning).map (read.reverse ++ ·)

theorem elementsRead_cons {entry : Space × Document × Space}
    {entries : List (Space × Document × Space)} :
    elementsRead meaning read (entry :: entries)
      = (meaning entry.2.1.tree).bind fun value =>
        elementsRead meaning (value :: read) entries := by
  rw [elementsRead, List.map_cons, List.mapM_cons]
  cases meaning entry.2.1.tree with
  | none => rfl
  | some value =>
      simp only [Option.bind_eq_bind, Option.bind_some, elementsRead, List.reverse_cons,
        List.append_assoc, List.singleton_append]
      cases (entries.map fun entry => entry.2.1.tree).mapM meaning <;> rfl

/-- One turn of the reader of a list. -/
theorem run?_elements_turn
    {document : Document}
    (after : Space)
    (implements : Implements bound element meaning)
    (fits : document.chars.length ≤ bound)
    (bounded : Bounded rest)
    (announced : (nextElement first).run? text
      = some (true, document.chars ++ (after.chars ++ rest))) :
    (elements element (turns + 1) first read).run? text
      = (meaning document.tree).bind fun value =>
        (elements element turns false (value :: read)).run? rest := by
  have decided := implements.decides document fits _ (after.bounded bounded)
  rw [elements]
  simp only [Reader.run?_bind, announced, Option.bind_some, Reader.run?_ite, if_true, decided]
  cases meaning document.tree with
  | none => rfl
  | some value => exact ignoresSpace_elements after rest

theorem run?_elements_later
    {entries : List (Space × Document × Space)}
    (implements : Implements bound element meaning)
    (fits : ∀ entry ∈ entries, entry.2.1.chars.length ≤ bound)
    (enough : entries.length < turns) :
    (elements element turns false read).run?
        (afterCommas (entries.map Document.elementText) ++ ']' :: rest)
      = (elementsRead meaning read entries).map fun values => (values, rest) := by
  induction entries generalizing read turns with
  | nil =>
      obtain ⟨turns, rfl⟩ := Nat.exists_eq_add_one_of_ne_zero (Nat.ne_zero_of_lt enough)
      simpa [afterCommas, elementsRead] using run?_elements_end
  | cons entry entries inductionHypothesis =>
      obtain ⟨turns, rfl⟩ := Nat.exists_eq_add_one_of_ne_zero (Nat.ne_zero_of_lt enough)
      rw [List.length_cons] at enough
      obtain ⟨c, more, spelled, heads⟩ := entry.2.1.chars_eq_cons
      have announced : (nextElement false).run?
          (afterCommas ((entry :: entries).map Document.elementText) ++ ']' :: rest)
            = some (true, entry.2.1.chars ++ (entry.2.2.chars
              ++ (afterCommas (entries.map Document.elementText) ++ ']' :: rest))) := by
        simp only [List.map_cons, afterCommas, List.flatMap_cons, Document.elementText, spelled,
          List.cons_append, List.append_assoc]
        exact run?_nextElement_comma entry.1 heads.inside
      rw [run?_elements_turn entry.2.2 implements (fits entry List.mem_cons_self)
        bounded_closingList announced, elementsRead_cons]
      cases meaning entry.2.1.tree with
      | none => rfl
      | some value =>
          exact inductionHypothesis (fun entry later => fits entry (List.mem_cons_of_mem _ later))
            (Nat.lt_of_succ_lt_succ enough)

theorem run?_elements_first
    {entries : List (Space × Document × Space)}
    (space : Space)
    (implements : Implements bound element meaning)
    (fits : ∀ entry ∈ entries, entry.2.1.chars.length ≤ bound)
    (enough : entries.length ≤ turns) :
    (elements element (turns + 1) true []).run?
        (space.chars ++ (commaJoined (entries.map Document.elementText) ++ ']' :: rest))
      = (elementsRead meaning [] entries).map fun values => (values, rest) := by
  cases entries with
  | nil =>
      rw [ignoresSpace_elements]
      exact run?_elements_end
  | cons entry entries =>
      obtain ⟨c, more, spelled, heads⟩ := entry.2.1.chars_eq_cons
      have announced : (nextElement true).run? (space.chars
          ++ (commaJoined ((entry :: entries).map Document.elementText) ++ ']' :: rest))
            = some (true, entry.2.1.chars ++ (entry.2.2.chars
              ++ (afterCommas (entries.map Document.elementText) ++ ']' :: rest))) := by
        simp only [List.map_cons, commaJoined, Document.elementText, spelled,
          List.cons_append, List.append_assoc]
        exact run?_nextElement_first space entry.1 heads.inside
      rw [run?_elements_turn entry.2.2 implements (fits entry List.mem_cons_self)
        bounded_closingList announced, elementsRead_cons]
      cases meaning entry.2.1.tree with
      | none => rfl
      | some value =>
          exact run?_elements_later implements
            (fun entry later => fits entry (List.mem_cons_of_mem _ later)) enough

end Elements

theorem Implements.list {element : Reader α} {meaning : Tree → Option α}
    (implements : Implements bound element meaning) :
    Implements bound (list element bound) (Tree.list? meaning) where
  ignores := ignoresSpace_valueStart
  decides document fits rest _ := by
    obtain ⟨c, more, spelled, heads⟩ := document.chars_eq_cons
    have solid := isSpace_of_not_isBoundary heads.inside
    by_cases bracket : c = '['
    · obtain ⟨space, entries, rfl⟩ := heads.list.mp bracket
      have enough := Nat.le_trans Document.length_elements_le fits
      have loop : (elements element (bound + 1) true []).run?
          (space.chars ++ (commaJoined (entries.map Document.elementText) ++ ']' :: rest))
            = (elementsRead meaning [] entries).map fun values => (values, rest) :=
        run?_elements_first space implements
          (fun entry inside => Nat.le_trans (Document.length_le_list_of_mem inside) fits) enough
      rw [Document.chars_list, Document.tree_list]
      simpa [Json.list, isSpace, Tree.list?, elementsRead] using loop
    · have other : document.tree.list? meaning = none := by
        cases document with
        | list space entries => exact absurd (heads.list.mpr ⟨space, entries, rfl⟩) bracket
        | _ => rfl
      simp [spelled, Json.list, solid, bracket, other, run?_wrongKind]

end Findings.Json
