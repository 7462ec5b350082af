import Mathlib
import Findings.Proofs.Json.Document

/-!
Contract: the indented text of a JSON value is a document.

Owns:
- `Value.tree`, what a value says;
- the law that its indented text, at every level, is the text of a document that
  says the same.

Does not own: what anybody makes of a document.
-/

namespace Findings.Json

variable {piece : List Char} {pieces : List (List Char)}

/-! ## Numbers -/

def NumberText.ofInt (value : Int) : NumberText :=
  ⟨decide (value < 0), value.natAbs, none, none⟩

namespace NumberText

theorem text_ofInt (value : Int) : (ofInt value).text = Value.integerText value := by
  by_cases negative : value < 0
  · have size : (-value).toNat = value.natAbs := by omega
    rw [integerText_of_neg negative, size]
    simp [text, magnitudeText, fractionText, exponentText, ofInt, negative]
  · have size : value.toNat = value.natAbs := by omega
    rw [integerText_of_nonneg (Int.not_lt.mp negative), size]
    simp [text, magnitudeText, fractionText, exponentText, ofInt, negative]

theorem integer?_ofInt (value : Int) : (ofInt value).integer? = some value := by
  cases value with
  | ofNat n =>
      have sign : decide (Int.ofNat n < 0) = false :=
        decide_eq_false (Int.not_lt.mpr (Int.natCast_nonneg n))
      rw [ofInt, sign]
      rfl
  | negSucc n =>
      have sign : decide (Int.negSucc n < 0) = true := decide_eq_true (Int.negSucc_lt_zero n)
      rw [ofInt, sign]
      rfl

end NumberText

/-! ## Strings -/

theorem mem_shortEscapes_of_escapeLetter? {c letter : Char} (short : escapeLetter? c = some letter) :
    (letter, c) ∈ shortEscapes := by
  unfold escapeLetter? at short
  split at short
  · rename_i quoted
    obtain rfl := Option.some.inj short
    rcases quoted with rfl | rfl <;> decide
  · split_ifs at short with backspace tab feed page back
    all_goals subst_vars; obtain rfl := Option.some.inj short; decide

/-- A character is spelled as it is written: by itself, by a letter or by its
digits. -/
theorem exists_escapeChar (c : Char) :
    ∃ spelled : SpelledChar, spelled.text = escapeChar c ∧ spelled.char = c := by
  cases short : escapeLetter? c with
  | some letter =>
      have known := mem_shortEscapes_of_escapeLetter? short
      exact ⟨.short letter c known, by simp [SpelledChar.text, escapeChar, short], rfl⟩
  | none =>
      have solid : c ≠ '"' ∧ c ≠ '\\' := by
        unfold escapeLetter? at short
        split_ifs at short with quoted
        simpa using quoted
      by_cases control : c < ' '
      · have below : c.toNat < 32 := UInt32.lt_iff_toNat_lt.mp control
        have small : c.toNat < 0x10000 := by omega
        refine ⟨.unit c small fun _ => false, ?_, rfl⟩
        have high : c.toNat / 0x1000 % 0x10 = 0 ∧ c.toNat / 0x100 % 0x10 = 0 := by omega
        have low : c.toNat / 0x10 % 0x10 = c.toNat / 16 := by omega
        have zero : hexDigit 0 = '0' := by decide
        simp [SpelledChar.text, escapeChar, short, control, hexEscape, hexDigits, hexDigitOf,
          high, low, zero]
      · refine ⟨.plain c ⟨control, solid⟩, ?_, rfl⟩
        simp [SpelledChar.text, escapeChar, short, control]

theorem exists_quote (chars : List Char) :
    ∃ spelled, spelledText spelled = quote chars ∧ spelledString spelled = String.ofList chars := by
  have each : ∃ spelled : List SpelledChar,
      spelled.flatMap SpelledChar.text = chars.flatMap escapeChar
        ∧ spelled.map SpelledChar.char = chars := by
    induction chars with
    | nil => exact ⟨[], rfl, rfl⟩
    | cons c chars inductionHypothesis =>
        obtain ⟨spelled, text, whole⟩ := inductionHypothesis
        obtain ⟨first, firstText, firstChar⟩ := exists_escapeChar c
        refine ⟨first :: spelled, ?_, ?_⟩
        · rw [List.flatMap_cons, List.flatMap_cons, firstText, text]
        · rw [List.map_cons, firstChar, whole]
  obtain ⟨spelled, text, whole⟩ := each
  exact ⟨spelled, by rw [spelledText, quote, text], by rw [spelledString, whole]⟩

/-! ## Values -/

theorem commaJoined_cons (more : pieces ≠ []) :
    commaJoined (piece :: pieces) = piece ++ ',' :: commaJoined pieces := by
  obtain ⟨next, rest, rfl⟩ := List.exists_cons_of_ne_nil more
  rw [commaJoined, afterCommas_cons, commaJoined]

def Space.line (level : Nat) : Space where
  chars := Value.newLine level
  blank c inside := by
    rcases List.mem_cons.mp inside with rfl | later
    · rfl
    · rw [List.eq_of_mem_replicate later]
      rfl

def Space.single : Space :=
  ⟨[' '], by simp [isSpace]⟩

namespace Value

mutual

def tree : Value → Tree
  | null => .null
  | integer value => .number (.ofInt value)
  | text value => .text value
  | list elements => .list (elementTrees elements)
  | object members => .object (memberTrees members)

def elementTrees : List Value → List Tree
  | [] => []
  | value :: more => value.tree :: elementTrees more

def memberTrees : List (String × Value) → List (String × Tree)
  | [] => []
  | (name, value) :: more => (name, value.tree) :: memberTrees more

end

variable {level : Nat} {name : String} {value : Value} {elements : List Value}
  {members : List (String × Value)}

theorem elementTrees_eq : elementTrees elements = elements.map tree := by
  induction elements with
  | nil => rfl
  | cons value more inductionHypothesis =>
      rw [elementTrees, inductionHypothesis, List.map_cons]

theorem memberTrees_eq :
    memberTrees members = members.map fun member => (member.1, member.2.tree) := by
  induction members with
  | nil => rfl
  | cons member more inductionHypothesis =>
      rw [memberTrees, inductionHypothesis, List.map_cons]

theorem indentedElements_cons (later : elements ≠ []) :
    indentedElements level (value :: elements)
      = newLine level ++ (indented level value ++ ',' :: indentedElements level elements) := by
  obtain ⟨next, rest, rfl⟩ := List.exists_cons_of_ne_nil later
  rw [indentedElements, List.append_assoc]
  exact List.cons_ne_nil next rest

theorem indentedMembers_cons (later : members ≠ []) :
    indentedMembers level ((name, value) :: members)
      = newLine level ++ (quote name.toList ++ ':' :: ' ' :: (indented level value
        ++ ',' :: indentedMembers level members)) := by
  obtain ⟨next, rest, rfl⟩ := List.exists_cons_of_ne_nil later
  rw [indentedMembers]
  · simp
  · exact List.cons_ne_nil next rest

/-- A document is the indented text of a value at a level, and says the same. -/
def Shows (level : Nat) (value : Value) (document : Document) : Prop :=
  document.chars = value.indented level ∧ document.tree = value.tree

/-- The last element is followed by a new line at the level of the list. -/
theorem exists_elements (outer : Nat) (filled : elements ≠ [])
    (each : ∀ value ∈ elements, ∃ document, Shows level value document) :
    ∃ entries : List (Space × Document × Space),
      commaJoined (entries.map Document.elementText)
          = indentedElements level elements ++ newLine outer
        ∧ Document.elementTrees entries = elementTrees elements := by
  induction elements with
  | nil => contradiction
  | cons value more inductionHypothesis =>
      obtain ⟨document, text, same⟩ := each value List.mem_cons_self
      by_cases last : more = []
      · subst last
        refine ⟨[(.line level, document, .line outer)], ?_, ?_⟩
        · simp [commaJoined, afterCommas, Document.elementText, Space.line, text, indentedElements]
        · simp [Document.elementTrees, elementTrees, same]
      · obtain ⟨entries, texts, others⟩ := inductionHypothesis last fun value inside =>
          each value (List.mem_cons_of_mem _ inside)
        have later : entries.map Document.elementText ≠ [] := by
          intro none
          rw [List.map_eq_nil_iff.mp none, elementTrees_eq] at others
          exact last (List.map_eq_nil_iff.mp others.symm)
        refine ⟨(.line level, document, .none) :: entries, ?_, ?_⟩
        · rw [List.map_cons, commaJoined_cons later, texts, indentedElements_cons last]
          simp [Document.elementText, Space.line, Space.none, text]
        · simp [Document.elementTrees, elementTrees, same, others]

theorem exists_members (outer : Nat) (filled : members ≠ [])
    (each : ∀ member ∈ members, ∃ document, Shows level member.2 document) :
    ∃ entries : List (MemberName × Document × Space),
      commaJoined (entries.map Document.memberText)
          = indentedMembers level members ++ newLine outer
        ∧ Document.memberTrees entries = memberTrees members := by
  induction members with
  | nil => contradiction
  | cons member more inductionHypothesis =>
      obtain ⟨name, value⟩ := member
      obtain ⟨document, text, same⟩ := each (name, value) List.mem_cons_self
      obtain ⟨spelled, quoted, whole⟩ := exists_quote name.toList
      rw [String.ofList_toList] at whole
      by_cases last : more = []
      · subst last
        refine ⟨[(⟨.line level, spelled, .none, .single⟩, document, .line outer)], ?_, ?_⟩
        · simp [commaJoined, afterCommas, Document.memberText, MemberName.text, Space.line,
            Space.none, Space.single, quoted, text, indentedMembers]
        · simp [Document.memberTrees, memberTrees, whole, same]
      · obtain ⟨entries, texts, others⟩ := inductionHypothesis last fun member inside =>
          each member (List.mem_cons_of_mem _ inside)
        have later : entries.map Document.memberText ≠ [] := by
          intro none
          rw [List.map_eq_nil_iff.mp none, Document.memberTrees] at others
          obtain ⟨next, rest, rfl⟩ := List.exists_cons_of_ne_nil last
          simp [memberTrees] at others
        refine ⟨(⟨.line level, spelled, .none, .single⟩, document, .none) :: entries, ?_, ?_⟩
        · rw [List.map_cons, commaJoined_cons later, texts, indentedMembers_cons last]
          simp [Document.memberText, MemberName.text, Space.line, Space.none, Space.single,
            quoted, text]
        · simp [Document.memberTrees, memberTrees, whole, same, others]

/-- The indented text of a value is a document that says what the value says. -/
theorem exists_indented (level : Nat) (value : Value) : ∃ document, Shows level value document :=
  match value with
  | null => ⟨.null, by rw [Document.chars, indented], by rw [Document.tree, tree]⟩
  | integer value =>
      ⟨.number (.ofInt value),
        by rw [Document.chars, indented, NumberText.text_ofInt], by rw [Document.tree, tree]⟩
  | text value => by
      obtain ⟨spelled, quoted, whole⟩ := exists_quote value.toList
      refine ⟨.text spelled, by rw [Document.chars, indented, quoted], ?_⟩
      rw [Document.tree, tree, whole, String.ofList_toList]
  | list [] =>
      ⟨.list .none [], by simp [Document.chars_list, indented, Space.none, commaJoined],
        by rw [Document.tree, tree]; rfl⟩
  | list (first :: more) => by
      obtain ⟨entries, texts, same⟩ :=
        exists_elements level (List.cons_ne_nil first more) fun value _ =>
          exists_indented (level + 1) value
      refine ⟨.list .none entries, ?_, by rw [Document.tree, tree, same]⟩
      rw [Document.chars_list, texts, indented]
      · simp [Space.none]
      · exact List.cons_ne_nil first more
  | object [] =>
      ⟨.object .none [], by simp [Document.chars_object, indented, Space.none, commaJoined],
        by rw [Document.tree, tree]; rfl⟩
  | object (first :: more) => by
      obtain ⟨entries, texts, same⟩ :=
        exists_members level (List.cons_ne_nil first more) fun member _ =>
          exists_indented (level + 1) member.2
      refine ⟨.object .none entries, ?_, by rw [Document.tree, tree, same]⟩
      rw [Document.chars_object, texts, indented]
      · simp [Space.none]
      · exact List.cons_ne_nil first more
termination_by value
decreasing_by
  · have smaller := List.sizeOf_lt_of_mem ‹value ∈ first :: more›
    simp only [list.sizeOf_spec]
    omega
  · have smaller := List.sizeOf_lt_of_mem ‹member ∈ first :: more›
    obtain ⟨name, value⟩ := member
    simp only [Prod.mk.sizeOf_spec, object.sizeOf_spec] at smaller ⊢
    omega

end Value

end Findings.Json
