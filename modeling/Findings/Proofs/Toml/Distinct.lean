import Findings.Proofs.Toml.Entries
import Findings.Toml.Document

/-!
Contract: no table of a document has a key twice.

Owns:
- `Yields`, a property of everything that a reader gives, with one law for each way
  to put readers together;
- the law for values, and from it the law for documents: the table of a text that is
  read has distinct keys at any depth, so an entry is what a look-up of its key finds.

Does not own: which texts are read.
-/

namespace Findings.Toml

variable {α β : Type} {P : α → Prop} {Q : β → Prop} {reader : Reader α}

/-! ## Readers -/

/-- Everything that a reader gives has a property. -/
def Yields (reader : Reader α) (P : α → Prop) : Prop :=
  ∀ text result rest, reader.run text = some (result, rest) → P result

theorem yields_true : Yields reader fun _ => True :=
  fun _ _ _ _ => trivial

theorem yields_pure {result : α} (holds : P result) : Yields (pure result) P := by
  intro text other rest read
  cases read
  exact holds

theorem yields_failure : Yields (failure : Reader α) P := by
  intro text result rest read
  contradiction

/-- What is given outside of the text is given by the reader, too. -/
theorem yields_lift {given : Option α} (holds : ∀ result, given = some result → P result) :
    Yields (liftM given : Reader α) P := by
  intro text result rest read
  cases given with
  | none => contradiction
  | some result =>
    cases read
    exact holds _ rfl

/-- What two readers give, one after the other, is what the second gives. -/
theorem Yields.bind {next : α → Reader β} (first : Yields reader P)
    (second : ∀ result, P result → Yields (next result) Q) : Yields (reader >>= next) Q := by
  intro text result rest read
  obtain ⟨⟨middle, left⟩, done, goesOn⟩ := Option.bind_eq_some_iff.mp read
  exact second middle (first text middle left done) left result rest goesOn

/-- What comes behind a reader whose result does not matter. -/
theorem yields_bind {next : α → Reader β} (second : ∀ result, Yields (next result) Q) :
    Yields (reader >>= next) Q :=
  yields_true.bind fun result _ => second result

theorem yields_ite {condition : Prop} [Decidable condition] {left right : Reader α}
    (first : Yields left P) (second : Yields right P) :
    Yields (if condition then left else right) P := by
  split
  · exact first
  · exact second

/-! ## Values -/

theorem yields_word : Yields word Value.Distinct := by
  refine yields_bind fun text => yields_bind fun _ => ?_
  refine yields_ite (yields_pure .boolean) (yields_ite (yields_pure .boolean) ?_)
  split
  · exact yields_pure .integer
  · exact yields_ite (yields_pure .float) (yields_ite (yields_pure .dateTime) yields_failure)

section Elements

variable {valueReader : Reader Value} {bound : Nat}

theorem yields_arrayElements (yields : Yields valueReader Value.Distinct) {read : List Value}
    (good : ∀ element ∈ read, element.Distinct) :
    Yields (arrayElements valueReader bound read) fun elements =>
      ∀ element ∈ elements, element.Distinct := by
  induction bound generalizing read with
  | zero => exact yields_failure
  | succ bound inductionHypothesis =>
    have ended : ∀ element ∈ read.reverse, element.Distinct :=
      fun element member => good element (List.mem_reverse.mp member)
    refine yields_bind fun _ => yields_bind fun closed => ?_
    refine yields_ite (yields_pure ended) ?_
    refine yields.bind fun element new => ?_
    have longer : ∀ other ∈ element :: read, other.Distinct :=
      List.forall_mem_cons.mpr ⟨new, good⟩
    refine yields_bind fun _ => yields_bind fun comma => ?_
    refine yields_ite (inductionHypothesis longer) (yields_bind fun _ => ?_)
    exact yields_pure fun other member => longer other (List.mem_reverse.mp member)

theorem yields_inlineKeyValue (yields : Yields valueReader Value.Distinct) :
    Yields (inlineKeyValue valueReader bound) fun pair => pair.2.Distinct := by
  refine yields_bind fun path => yields_bind fun _ => yields_bind fun _ => ?_
  refine yields_bind fun _ => yields.bind fun value good => ?_
  exact yields_pure good

theorem yields_keyValue (yields : Yields valueReader Value.Distinct) :
    Yields (keyValue valueReader bound) fun pair => pair.2.Distinct := by
  refine yields_bind fun path => yields_bind fun _ => yields_bind fun _ => ?_
  refine yields.bind fun value good => ?_
  exact yields_pure good

/-- An entry of an inline table is put only where its key is not yet. -/
theorem yields_inlineEntries (yields : Yields valueReader Value.Distinct) {entries : Entries}
    (distinct : entries.Distinct) :
    Yields (inlineEntries valueReader bound entries) Entries.Distinct := by
  induction bound generalizing entries with
  | zero => exact yields_failure
  | succ bound inductionHypothesis =>
    refine yields_bind fun _ => yields_bind fun closed => ?_
    refine yields_ite (yields_pure distinct) ?_
    refine (yields_inlineKeyValue yields).bind fun (path, value) good => ?_
    have inserted : Yields (liftM (entries.insert path value) : Reader Entries) Entries.Distinct :=
      yields_lift fun result made => distinct.insert good made
    refine inserted.bind fun longer longerDistinct => ?_
    refine yields_bind fun _ => yields_bind fun comma => ?_
    refine yields_ite (inductionHypothesis longerDistinct) (yields_bind fun _ => ?_)
    exact yields_pure longerDistinct

end Elements

/-- No value that is read has a table with a key twice. -/
theorem yields_value {bound : Nat} : Yields (value bound) Value.Distinct := by
  induction bound with
  | zero => exact yields_failure
  | succ bound inductionHypothesis =>
    refine yields_bind fun text? => ?_
    cases text? with
    | some text => exact yields_pure .string
    | none =>
      refine yields_bind fun list => yields_ite ?_ (yields_bind fun table => yields_ite ?_ ?_)
      · refine (yields_arrayElements inductionHypothesis (by simp)).bind fun elements good => ?_
        exact yields_pure (.array good)
      · refine (yields_inlineEntries inductionHypothesis Entries.distinct_nil).bind ?_
        exact fun entries distinct => yields_pure distinct.toValues
      · exact yields_word

/-! ## Documents -/

/-- The value of a line, if it has one, has no table with a key twice. -/
def Line.Distinct : Line → Prop
  | .pair _ value => value.Distinct
  | .header _ | .arrayHeader _ => True

theorem yields_line {bound : Nat} : Yields (line bound) Line.Distinct := by
  refine yields_bind fun double => yields_ite ?_ (yields_bind fun single => yields_ite ?_ ?_)
  · exact yields_bind fun path => yields_bind fun _ => yields_pure trivial
  · exact yields_bind fun path => yields_bind fun _ => yields_pure trivial
  · refine (yields_keyValue yields_value).bind fun pair good => ?_
    exact yields_pure good

theorem yields_lines {size bound : Nat} {read : List Line} (good : ∀ line ∈ read, line.Distinct) :
    Yields (lines size bound read) fun lines => ∀ line ∈ lines, line.Distinct := by
  induction bound generalizing read with
  | zero => exact yields_pure fun line member => good line (List.mem_reverse.mp member)
  | succ bound inductionHypothesis =>
    refine yields_bind fun _ => yields_bind fun text => yields_ite ?_ ?_
    · exact yields_pure fun line member => good line (List.mem_reverse.mp member)
    · refine yields_line.bind fun next new => yields_bind fun _ => ?_
      exact inductionHypothesis (List.forall_mem_cons.mpr ⟨new, good⟩)

/-- The lines of a text, if it is read to its end. -/
def linesOf? (text : String) : Option (List Line) := do
  let chars := dropMark text.toList
  let size := chars.length + 1
  let (lines, rest) ← (lines size size []).run chars
  if rest.isEmpty then some lines else none

/-- A text is read line by line first, and the lines make the table. -/
theorem parse_eq {text : String} : parse text = (linesOf? text).bind tableOf := by
  unfold parse linesOf?
  dsimp only
  cases (lines ((dropMark text.toList).length + 1) ((dropMark text.toList).length + 1) []).run
      (dropMark text.toList) with
  | none => rfl
  | some read =>
    obtain ⟨lines, rest⟩ := read
    cases rest <;> rfl

theorem distinct_of_linesOf? {text : String} {lines : List Line}
    (read : linesOf? text = some lines) : ∀ line ∈ lines, line.Distinct := by
  obtain ⟨⟨made, rest⟩, run, ended⟩ := Option.bind_eq_some_iff.mp read
  dsimp only at ended
  split at ended
  · cases ended
    exact yields_lines (by simp) _ _ _ run
  · contradiction

namespace Draft

variable {draft next : Draft} {line : Line} {lines : List Line}

/-- No line makes a key come twice. -/
theorem distinct_add (distinct : draft.entries.Distinct) (good : line.Distinct)
    (added : draft.add line = some next) : next.entries.Distinct := by
  cases line with
  | pair path value =>
    obtain ⟨entries, made, same⟩ := Option.bind_eq_some_iff.mp added
    cases same
    refine distinct.alterAt ?_ made
    exact fun _ _ innerDistinct inserted => innerDistinct.insert good inserted
  | header path =>
    obtain ⟨entries, made, same⟩ := Option.bind_eq_some_iff.mp added
    cases same
    exact distinct.openTable made
  | arrayHeader path =>
    obtain ⟨entries, made, same⟩ := Option.bind_eq_some_iff.mp added
    cases same
    exact distinct.appendTable made

/-- No list of lines makes a key come twice. -/
theorem distinct_foldlM (distinct : draft.entries.Distinct)
    (good : ∀ line ∈ lines, line.Distinct) (added : lines.foldlM add draft = some next) :
    next.entries.Distinct := by
  induction lines generalizing draft with
  | nil =>
    cases added
    exact distinct
  | cons line lines inductionHypothesis =>
    obtain ⟨middle, first, others⟩ := Option.bind_eq_some_iff.mp added
    obtain ⟨lineGood, linesGood⟩ := List.forall_mem_cons.mp good
    exact inductionHypothesis (distinct_add distinct lineGood first) linesGood others

end Draft

/-- No table of a document that is read has a key twice. -/
theorem distinct_of_parse {text : String} {table : List (String × Value)}
    (read : parse text = some table) : (Value.table table).Distinct := by
  rw [parse_eq] at read
  obtain ⟨lines, made, drafted⟩ := Option.bind_eq_some_iff.mp read
  obtain ⟨draft, added, same⟩ := Option.bind_eq_some_iff.mp drafted
  cases same
  exact (Draft.distinct_foldlM Entries.distinct_nil (distinct_of_linesOf? made) added).toValues

end Findings.Toml
