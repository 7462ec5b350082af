import Mathlib
import Findings.Proofs.Json.Found
import Findings.Proofs.Report.Schema

/-!
Contract: which texts are accepted as outputs of an analyzer, of any texts.

Owns:
- what a tree has to look like to give a violation, a report and a list of reports;
- the law that a text is accepted only if it is a document whose tree looks so, and
  that any other text is malformed;
- a text of lists alone, without a name in it, that is accepted.

Does not own: the wording and the place of a refusal.
-/

namespace Findings

open Json

variable {α : Type} {members : List (String × Tree)} {elements : List Tree}

/-! ## Shapes -/

/-- A tree gives a violation: an object by the names of its members, or a list of the
three fields in order. -/
def Violation.GivenBy (violation : Violation) : Tree → Prop
  | .object members => violation.SaidBy members
  | .list elements =>
    ∃ line : NumberText,
      elements = [.text violation.ruleType, .text violation.description, .number line]
        ∧ line.integer? = some violation.sourceLine.toInt
  | _ => False

/-- Trees give all violations of a report: there is no tree, it is null, or it is a
list of violations. -/
def Violation.AllGivenBy (violations : List Violation) : List Tree → Prop
  | [] => violations = []
  | [.null] => violations = []
  | [.list elements] => List.Forall₂ Violation.GivenBy violations elements
  | _ => False

/-- A tree gives a report: an object by the names of its members, or a list of the
fields in order, of which the last may be missing. -/
def FileReport.GivenBy (report : FileReport) : Tree → Prop
  | .object members =>
    valuesOf "FilePath" members = [.text report.path]
      ∧ OnlyNumber report.linesOfCode (valuesOf "LinesOfCode" members)
      ∧ OnlyNumber report.linesOfComments (valuesOf "LinesOfComments" members)
      ∧ Violation.AllGivenBy report.violations (valuesOf "Violations" members)
  | .list elements =>
    ∃ (code comments : NumberText) (violations : List Tree),
      elements = .text report.path :: .number code :: .number comments :: violations
        ∧ code.integer? = some report.linesOfCode.toInt
        ∧ comments.integer? = some report.linesOfComments.toInt
        ∧ Violation.AllGivenBy report.violations violations
  | _ => False

/-- A tree gives all reports: it is null, or a list of reports. -/
def FileReport.AllGivenBy (reports : List FileReport) : Tree → Prop
  | .null => reports = []
  | .list elements => List.Forall₂ FileReport.GivenBy reports elements
  | _ => False

/-! ## Fields in order -/

section Positional

variable {field : FieldMeaning α} {fields : List (FieldMeaning α)} {value record : α} {tree : Tree}
  {trees : List Tree}

theorem positional?_cons_eq_some_iff :
    positional? (field :: fields) value (tree :: trees) = some record
      ↔ ∃ given, field.value? tree = some given
        ∧ positional? fields (field.put given value) trees = some record := by
  simp [positional?, FieldMeaning.change?, Option.bind_eq_some_iff]

theorem positional?_missing_eq_some_iff :
    positional? (field :: fields) value [] = some record
      ↔ field.presence = .optional ∧ positional? fields value [] = some record := by
  simp [positional?]

theorem positional?_nil_eq_some_iff :
    positional? [] value trees = some record ↔ trees = [] ∧ value = record := by
  cases trees <;> simp [positional?]

end Positional

theorem Violation.read?_eq_some_iff {violation : Violation} {tree : Tree} :
    read? tree = some violation ↔ violation.GivenBy tree := by
  cases tree with
  | object members => exact read?_object
  | list elements =>
      rw [read?, Tree.record?, meanings]
      -- three elements are needed, because no field may be left out
      rcases elements with _ | ⟨first, _ | ⟨second, _ | ⟨third, more⟩⟩⟩
      · simp [positional?_missing_eq_some_iff, textMeaning, textField, GivenBy]
      · simp [positional?_cons_eq_some_iff, positional?_missing_eq_some_iff, textMeaning, textField,
          GivenBy]
      · simp [positional?_cons_eq_some_iff, positional?_missing_eq_some_iff, textMeaning, textField,
          numberMeaning, numberField, GivenBy]
      · simp only [positional?_cons_eq_some_iff, positional?_nil_eq_some_iff, textMeaning,
          numberMeaning, GivenBy, text?_eq_some_iff, integer?_eq_some_iff]
        constructor
        · rintro ⟨ruleType, rfl, description, rfl, sourceLine, ⟨line, rfl, written⟩, rfl, rfl⟩
          exact ⟨line, rfl, written⟩
        · rintro ⟨line, same, written⟩
          simp only [List.cons.injEq] at same
          obtain ⟨rfl, rfl, rfl, rfl⟩ := same
          exact ⟨_, rfl, _, rfl, _, ⟨line, rfl, written⟩, rfl, rfl⟩
  | _ => simp [read?, Tree.record?, GivenBy]

theorem finds_textMeaning {name : String} {put : String → α → α} {get : α → String} :
    Finds (textMeaning name put get).read (textMeaning name put get).change? :=
  finds_string.map put

theorem finds_numberMeaning {name : String} {put : Int64 → α → α} {get : α → Int64} :
    Finds (numberMeaning name put get).read (numberMeaning name put get).change? := by
  have change : (numberMeaning name put get).change? = fun tree =>
      (tree.integer? Int64.minValue.toInt Int64.maxValue.toInt).map
        fun value => put (Int64.ofInt value) := by
    funext tree
    simp [FieldMeaning.change?, numberMeaning, Function.comp_def]
  rw [change]
  exact finds_integer.map _

theorem Violation.finds_shape {bound : Nat} : Finds (record shape bound) read? := by
  have describes : shape.Describes bound meanings := describes_shape
  apply describes.finds_record
  simp only [meanings, List.forall_mem_cons]
  exact ⟨finds_textMeaning, finds_textMeaning, finds_numberMeaning, by simp⟩

namespace FileReport

variable {bound : Nat} {report : FileReport} {tree : Tree}

theorem mapM_violations {violations : List Violation} :
    elements.mapM Violation.read? = some violations
      ↔ List.Forall₂ Violation.GivenBy violations elements := by
  rw [mapM_eq_some_iff]
  simp only [Violation.read?_eq_some_iff]

/-- The member or the element for the violations gives them. -/
theorem violations?_eq_some_iff {violations : List Violation} :
    (violationsMeaning bound).value? tree = some violations
      ↔ Violation.AllGivenBy violations [tree] := by
  cases tree with
  | null => simp [violationsMeaning, Tree.nullable?, Violation.AllGivenBy, eq_comm]
  | list elements =>
      simp [violationsMeaning, Tree.nullable?, Tree.list?, Violation.AllGivenBy, mapM_violations]
  | _ => simp [violationsMeaning, Tree.nullable?, Tree.list?, Violation.AllGivenBy]

theorem given_violations :
    (violationsMeaning bound).Given (shape bound).blank members report
      ↔ Violation.AllGivenBy report.violations (valuesOf "Violations" members) := by
  have name : (violationsMeaning bound).name = "Violations" := rfl
  have presence : (violationsMeaning bound).presence ≠ .required := by simp [violationsMeaning]
  have kept : (violationsMeaning bound).get report = report.violations := rfl
  have blank : (violationsMeaning bound).get (shape bound).blank = [] := rfl
  rw [FieldMeaning.Given, name, kept, blank]
  rcases valuesOf "Violations" members with _ | ⟨tree, _ | ⟨second, later⟩⟩
  · constructor
    · rintro (⟨tree, only, -⟩ | ⟨-, -, none⟩)
      · contradiction
      · exact none
    · exact fun none => .inr ⟨rfl, presence, none⟩
  · constructor
    · rintro (⟨only, same, given⟩ | ⟨none, -⟩)
      · rw [List.cons.inj same |>.1]
        exact violations?_eq_some_iff.mp given
      · contradiction
    · exact fun given => .inl ⟨tree, rfl, violations?_eq_some_iff.mpr given⟩
  · simp [Violation.AllGivenBy]

/-- What comes behind the other fields of a list gives the violations. -/
theorem positional?_violations {value : FileReport} {trees : List Tree}
    (blank : value.violations = []) :
    positional? [violationsMeaning bound] value trees = some report
      ↔ Violation.AllGivenBy report.violations trees
        ∧ { value with violations := report.violations } = report := by
  rcases trees with _ | ⟨tree, _ | ⟨second, later⟩⟩
  · rw [positional?_missing_eq_some_iff, positional?_nil_eq_some_iff, Violation.AllGivenBy]
    constructor
    · rintro ⟨-, -, rfl⟩
      exact ⟨blank, rfl⟩
    · rintro ⟨none, whole⟩
      refine ⟨rfl, rfl, ?_⟩
      rw [← whole, none, ← blank]
  · rw [positional?_cons_eq_some_iff]
    constructor
    · rintro ⟨violations, read, whole⟩
      obtain ⟨-, rfl⟩ := positional?_nil_eq_some_iff.mp whole
      exact ⟨violations?_eq_some_iff.mp read, rfl⟩
    · rintro ⟨read, whole⟩
      exact ⟨report.violations, violations?_eq_some_iff.mpr read,
        positional?_nil_eq_some_iff.mpr ⟨rfl, whole⟩⟩
  · simp [positional?_cons_eq_some_iff, positional?_nil_eq_some_iff, Violation.AllGivenBy]

theorem read?_eq_some_iff : read? bound tree = some report ↔ report.GivenBy tree := by
  cases tree with
  | object members =>
      rw [read?, Tree.record?, fill?_eq_some_iff makeUp_meanings]
      simp only [meanings, List.forall_mem_cons, given_textMeaning, given_numberMeaning,
        given_violations, GivenBy]
      simp
  | list elements =>
      rw [read?, Tree.record?, meanings]
      -- the three numbers and names are needed, and what is left gives the violations
      rcases elements with _ | ⟨first, _ | ⟨second, _ | ⟨third, more⟩⟩⟩
      · simp [positional?_missing_eq_some_iff, textMeaning, textField, GivenBy]
      · simp [positional?_cons_eq_some_iff, positional?_missing_eq_some_iff, textMeaning, textField,
          numberMeaning, numberField, GivenBy]
      · simp [positional?_cons_eq_some_iff, positional?_missing_eq_some_iff, textMeaning, textField,
          numberMeaning, numberField, GivenBy]
      · simp only [positional?_cons_eq_some_iff, textMeaning, numberMeaning, GivenBy,
          text?_eq_some_iff, integer?_eq_some_iff]
        constructor
        · rintro ⟨path, rfl, _, ⟨code, rfl, first⟩, _, ⟨comments, rfl, second⟩, rest⟩
          obtain ⟨given, whole⟩ := (positional?_violations rfl).mp rest
          rw [← whole]
          exact ⟨code, comments, more, rfl, first, second, given⟩
        · rintro ⟨code, comments, violations, same, first, second, given⟩
          simp only [List.cons.injEq] at same
          obtain ⟨rfl, rfl, rfl, rfl⟩ := same
          exact ⟨_, rfl, _, ⟨code, rfl, first⟩, _, ⟨comments, rfl, second⟩,
            (positional?_violations rfl).mpr ⟨given, rfl⟩⟩
  | _ => simp [read?, Tree.record?, GivenBy]

/-- A document gives reports exactly if each of its elements gives one, in either form.
-/
theorem readAll?_eq_some_iff_allGivenBy {reports : List FileReport} :
    readAll? bound tree = some reports ↔ AllGivenBy reports tree := by
  cases tree with
  | null => simp [readAll?, Tree.nullable?, AllGivenBy, eq_comm]
  | list elements =>
      simp [readAll?, Tree.nullable?, Tree.list?, AllGivenBy, mapM_eq_some_iff, read?_eq_some_iff]
  | _ => simp [readAll?, Tree.nullable?, Tree.list?, AllGivenBy]

/-! ## Texts -/

theorem finds_violationsMeaning :
    Finds (violationsMeaning bound).read (violationsMeaning bound).change? := by
  have change : (violationsMeaning bound).change? = fun tree =>
      (tree.nullable? (Tree.list? Violation.read?)).map
        fun value report => { report with violations := value.getD [] } := by
    funext tree
    simp [FieldMeaning.change?, violationsMeaning, Function.comp_def]
  rw [change]
  exact (Violation.finds_shape.list.nullable rfl).map _

theorem finds_shape : Finds (record (shape bound) bound) (read? bound) := by
  apply describes_shape.finds_record
  simp only [meanings, List.forall_mem_cons]
  exact ⟨finds_textMeaning, finds_numberMeaning, finds_numberMeaning, finds_violationsMeaning,
    by simp⟩

/-- What is taken for a list of reports gives the reports. -/
theorem finds_listReader : Finds (listReader bound) (readAll? bound) :=
  (finds_shape.list.nullable rfl).map (·.getD [])

/-- A text that is decoded is a document of the reports, with white space around it. -/
theorem exists_depicts_of_decodeAll {text : String} {reports : List FileReport}
    (decoded : decodeAll text = .ok reports) :
    ∃ (before : Space) (piece : List Char) (tree : Tree) (after : Space),
      text.toList = before.chars ++ (piece ++ after.chars) ∧ Depicts piece tree
        ∧ AllGivenBy reports tree := by
  simp only [decodeAll] at decoded
  split at decoded
  · contradiction
  · split at decoded
    · rename_i whole
      obtain rfl := Except.ok.inj decoded
      obtain ⟨after, read⟩ := exists_after_of_document whole
      obtain ⟨before, piece, tree, spelled, depicts, means⟩ := finds_listReader _ _ _ read
      exact ⟨before, piece, tree, after, spelled, depicts,
        readAll?_eq_some_iff_allGivenBy.mp means⟩
    · contradiction

/-- A text that is not blank is malformed if it is not decoded. -/
theorem malformed_of_not_ok {text : String}
    (solid : ∃ c ∈ text.toList, Text.isBlank c = false)
    (refused : ∀ reports, decodeAll text ≠ .ok reports) :
    ∃ refusal, decodeAll text = .error (.malformed refusal) := by
  have notBlank : text.toList.all Text.isBlank = false := by
    obtain ⟨c, inside, notBlank⟩ := solid
    rw [List.all_eq_false]
    exact ⟨c, inside, by simp [notBlank]⟩
  simp only [decodeAll, notBlank, Bool.false_eq_true, if_false] at refused ⊢
  cases whole : Json.document (listReader text.toList.length) text.toList with
  | ok reports =>
      rw [whole] at refused
      exact absurd rfl (refused reports)
  | error fault => exact ⟨_, rfl⟩

/-- A text is accepted as the output of an analyzer only if it is a document that is
null or a list of reports: each an object with the members by their names, or a list
of the fields in order, and the same for their violations.
- A text of any other shape is malformed, unless it is blank.
- Of a document in any spelling, the tree alone decides. -/
theorem decodeAll_accepts (text : String) :
    (∀ reports, decodeAll text = .ok reports →
      ∃ (before : Space) (piece : List Char) (tree : Tree) (after : Space),
        text.toList = before.chars ++ (piece ++ after.chars) ∧ Depicts piece tree
          ∧ AllGivenBy reports tree)
      ∧ ((∃ c ∈ text.toList, Text.isBlank c = false) →
        (∀ (before : Space) (piece : List Char) (tree : Tree) (after : Space) reports,
          text.toList = before.chars ++ (piece ++ after.chars) → Depicts piece tree →
            ¬ AllGivenBy reports tree) →
        ∃ refusal, decodeAll text = .error (.malformed refusal))
      ∧ ∀ before document after, text = documentText before document after →
        ∀ reports, decodeAll text = .ok reports ↔ AllGivenBy reports document.tree := by
  refine ⟨fun reports => exists_depicts_of_decodeAll, ?malformed, ?documents⟩
  case malformed =>
    intro solid shapeless
    apply malformed_of_not_ok solid
    intro reports decoded
    obtain ⟨before, piece, tree, after, spelled, depicts, given⟩ :=
      exists_depicts_of_decodeAll decoded
    exact shapeless before piece tree after reports spelled depicts given
  case documents =>
    rintro before document after rfl reports
    obtain ⟨bound, decoded, -⟩ := decodeAll_documentText before after document
    rw [decoded, readAll?_eq_some_iff_allGivenBy]

/-- A report and its violation as the lists of their fields. -/
def orderedDocument : Document :=
  .list .none [(.none, .list .none [
    (.none, .text (spell "a.go"), .none),
    (.none, .number ⟨false, 1, none, none⟩, .none),
    (.none, .number ⟨false, 0, none, none⟩, .none),
    (.none, .list .none [(.none, .list .none [
      (.none, .text (spell "CC"), .none),
      (.none, .text (spell "too complex"), .none),
      (.none, .number ⟨false, 5, none, none⟩, .none)], .none)], .none)], .none)]

theorem tree_orderedDocument :
    orderedDocument.tree = .list [.list [
      .text "a.go", .number ⟨false, 1, none, none⟩, .number ⟨false, 0, none, none⟩,
      .list [.list [.text "CC", .text "too complex", .number ⟨false, 5, none, none⟩]]]] := by
  simp [orderedDocument, Document.tree, Document.elementTrees, spelledString_spell]

/-- An accepted list need not be one of objects, and no more need its violations. -/
theorem decodeAll_orderedDocument :
    documentText .none orderedDocument .none
        = "[[\"a.go\",1,0,[[\"CC\",\"too complex\",5]]]]"
      ∧ decodeAll (documentText .none orderedDocument .none)
        = .ok [⟨"a.go", 1, 0, [⟨"CC", "too complex", 5⟩]⟩]
      ∧ ∃ elements, orderedDocument.tree = .list elements ∧ ¬ AllObjects elements := by
  refine ⟨by decide +kernel, by decide +kernel, _, tree_orderedDocument, ?_⟩
  intro objects
  obtain ⟨members, same⟩ := objects _ List.mem_cons_self
  contradiction

/-- A report in order is given by its tree, and half a character in a member without a
field does no harm. -/
theorem decodeAll_accepts_halfCharacter :
    let text := "[\x7b\"FilePath\":\"a.go\",\"LinesOfCode\":1,\"Tool\":\"\\ud800\","
      ++ "\"LinesOfComments\":0\x7d]"
    (decodeAll text = .ok [⟨"a.go", 1, 0, []⟩]
      ∧ ∃ (before : Space) (piece : List Char) (tree : Tree) (after : Space),
        text.toList = before.chars ++ (piece ++ after.chars) ∧ Depicts piece tree
          ∧ AllGivenBy [⟨"a.go", 1, 0, []⟩] tree)
      ∧ AllGivenBy [⟨"a.go", 1, 0, [⟨"CC", "too complex", 5⟩]⟩] orderedDocument.tree := by
  intro text
  have decoded : decodeAll text = .ok [⟨"a.go", 1, 0, []⟩] := by
    decide +kernel
  refine ⟨⟨decoded, (decodeAll_accepts text).1 _ decoded⟩, ?_⟩
  exact ((decodeAll_accepts _).2.2 .none orderedDocument .none rfl _).mp (by decide +kernel)

end FileReport

end Findings
