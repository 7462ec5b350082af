import Findings.Proofs.Elements
import Findings.Proofs.Json.Fields
import Findings.Report.Codec

/-!
Contract: which documents are outputs of an analyzer, and of which reports.

Owns:
- what the members of an object say about a violation and about a report, by the
  only member of each name;
- what a whole document says, if all that should be an object is one;
- the law that the output is decoded to exactly the reports that it says, in
  order, and is malformed if it says none.

Members of any other name may say anything.  A number is an integer of 64 bits if it
is written as one: `1.0`, `1e3` and `-0` are none.
-/

namespace Findings

open Json

variable {α : Type} {bound : Nat} {members : List (String × Tree)}

/-! ## What documents say -/

/-- There is one value, and it is written as an integer. -/
def OnlyNumber (value : Int64) (trees : List Tree) : Prop :=
  ∃ number, trees = [.number number] ∧ number.integer? = some value.toInt

/-- The members of an object say what a violation is. -/
structure Violation.SaidBy (violation : Violation) (members : List (String × Tree)) : Prop where
  ruleType : valuesOf "Type" members = [.text violation.ruleType]
  description : valuesOf "Description" members = [.text violation.description]
  sourceLine : OnlyNumber violation.sourceLine (valuesOf "SrcLine" members)

/-- The values of the members for violations say what the violations are: there is
no such member, or its value is null, or it is a list of objects. -/
def Violation.AllSaidBy (violations : List Violation) : List Tree → Prop
  | [] => violations = []
  | [.null] => violations = []
  | [.list elements] =>
    List.Forall₂
      (fun violation element =>
        ∃ members, element = .object members ∧ violation.SaidBy members)
      violations elements
  | _ => False

/-- The members of an object say what a report is. -/
structure FileReport.SaidBy (report : FileReport) (members : List (String × Tree)) : Prop where
  path : valuesOf "FilePath" members = [.text report.path]
  linesOfCode : OnlyNumber report.linesOfCode (valuesOf "LinesOfCode" members)
  linesOfComments : OnlyNumber report.linesOfComments (valuesOf "LinesOfComments" members)
  violations : Violation.AllSaidBy report.violations (valuesOf "Violations" members)

/-- A document says what the reports are, in order. -/
def FileReport.AllSaidBy (reports : List FileReport) : Tree → Prop
  | .null => reports = []
  | .list elements =>
    List.Forall₂
      (fun report element => ∃ members, element = .object members ∧ report.SaidBy members)
      reports elements
  | _ => False

def AllObjects (elements : List Tree) : Prop :=
  ∀ element ∈ elements, ∃ members, element = .object members

/-- If a document is a list, it is one of objects, and lists of violations are ones
of objects, too. -/
def ObjectForm (tree : Tree) : Prop :=
  ∀ elements, tree = .list elements → AllObjects elements
    ∧ ∀ members violations, .object members ∈ elements →
      .list violations ∈ valuesOf "Violations" members → AllObjects violations

/-- The elements of a list of objects are read one by one. -/
theorem mapM_eq_some_iff_forall₂
    {read? : Tree → Option α}
    {Said : α → List (String × Tree) → Prop}
    {values : List α}
    {elements : List Tree}
    (objects : AllObjects elements)
    (each : ∀ members, .object members ∈ elements →
      ∀ value, read? (.object members) = some value ↔ Said value members) :
    elements.mapM read? = some values
      ↔ List.Forall₂ (fun value element => ∃ members, element = .object members ∧ Said value members)
        values elements := by
  rw [mapM_eq_some_iff]
  apply forall₂_congr_of_mem
  intro element inside value
  obtain ⟨members, rfl⟩ := objects element inside
  rw [each members inside value]
  constructor
  · exact fun said => ⟨members, rfl, said⟩
  · rintro ⟨known, same, said⟩
    obtain rfl := Tree.object.inj same
    exact said

/-! ## Fields -/

def textMeaning
    (name : String)
    (put : String → α → α)
    (get : α → String) :
    FieldMeaning α where
  toRecordField := textField name put
  Value := String
  value? := Tree.text?
  put := put
  get := get

def numberMeaning
    (name : String)
    (put : Int64 → α → α)
    (get : α → Int64) :
    FieldMeaning α where
  toRecordField := numberField name put
  Value := Int64
  value? tree := (tree.integer? Int64.minValue.toInt Int64.maxValue.toInt).map Int64.ofInt
  put := put
  get := get

section Meanings

variable {name : String} {blank record : α}

theorem implements_textMeaning {put : String → α → α} {get : α → String} :
    Implements bound (textMeaning name put get).read (textMeaning name put get).change? :=
  implements_string.map put

theorem implements_numberMeaning {put : Int64 → α → α} {get : α → Int64} :
    Implements bound (numberMeaning name put get).read (numberMeaning name put get).change? := by
  have representable : Int64.minValue.toInt ≤ Int64.minValue.toInt
      ∧ Int64.maxValue.toInt ≤ significandLimit := by
    decide
  have change : (numberMeaning name put get).change? = fun tree =>
      (tree.integer? Int64.minValue.toInt Int64.maxValue.toInt).map
        fun value => put (Int64.ofInt value) := by
    funext tree
    simp [FieldMeaning.change?, numberMeaning, Function.comp_def]
  rw [change]
  exact (implements_integer representable).map _

theorem text?_eq_some_iff {tree : Tree} {value : String} :
    tree.text? = some value ↔ tree = .text value := by
  cases tree <;> simp [Tree.text?]

theorem integer?_eq_some_iff {tree : Tree} {value : Int64} :
    (tree.integer? Int64.minValue.toInt Int64.maxValue.toInt).map Int64.ofInt = some value
      ↔ ∃ number, tree = .number number ∧ number.integer? = some value.toInt := by
  cases tree with
  | number written =>
      simp only [Tree.integer?, Option.map_eq_some_iff, Option.filter_eq_some_iff,
        decide_eq_true_eq, Tree.number.injEq]
      constructor
      · rintro ⟨integer, ⟨given, least, greatest⟩, rfl⟩
        have limit : Int64.maxValue.toInt = 9223372036854775807 := rfl
        refine ⟨written, rfl, ?_⟩
        rw [given, Int64.toInt_ofInt_of_le least (by omega)]
      · rintro ⟨_, rfl, given⟩
        exact ⟨value.toInt, ⟨given, value.minValue_le_toInt, value.toInt_le⟩, Int64.ofInt_toInt value⟩
  | _ => simp [Tree.integer?]

theorem given_textMeaning {put : String → α → α} {get : α → String} :
    (textMeaning name put get).Given blank members record
      ↔ valuesOf name members = [.text (get record)] := by
  simp [FieldMeaning.Given, textMeaning, textField, text?_eq_some_iff]

theorem given_numberMeaning {put : Int64 → α → α} {get : α → Int64} :
    (numberMeaning name put get).Given blank members record
      ↔ OnlyNumber (get record) (valuesOf name members) := by
  simp only [FieldMeaning.Given, numberMeaning, numberField, integer?_eq_some_iff, OnlyNumber]
  constructor
  · rintro (⟨tree, only, number, rfl, written⟩ | ⟨-, required, -⟩)
    · exact ⟨number, only, written⟩
    · contradiction
  · rintro ⟨number, only, written⟩
    exact .inl ⟨.number number, only, number, rfl, written⟩

end Meanings

/-! ## Violations -/

namespace Violation

def meanings : List (FieldMeaning Violation) := [
  textMeaning "Type" (fun value violation => { violation with ruleType := value }) (·.ruleType),
  textMeaning "Description" (fun value violation => { violation with description := value })
    (·.description),
  numberMeaning "SrcLine" (fun value violation => { violation with sourceLine := value })
    (·.sourceLine)]

theorem makeUp_meanings : MakeUp meanings where
  distinct := by decide
  get_put := by simp [meanings, textMeaning, numberMeaning]
  get_other := by simp [meanings, textMeaning, numberMeaning, textField, numberField]
  ext left right same := by
    simp [meanings, textMeaning, numberMeaning] at same
    cases left
    cases right
    simp_all

theorem describes_shape : shape.Describes bound meanings where
  fields_eq := rfl
  implements := by
    simp only [meanings, List.forall_mem_cons]
    exact ⟨implements_textMeaning, implements_textMeaning, implements_numberMeaning, by simp⟩

def read? : Tree → Option Violation :=
  Tree.record? meanings shape.blank

theorem read?_object {violation : Violation} :
    read? (.object members) = some violation ↔ violation.SaidBy members := by
  rw [read?, Tree.record?, fill?_eq_some_iff makeUp_meanings]
  simp only [meanings, List.forall_mem_cons, given_textMeaning, given_numberMeaning]
  constructor
  · rintro ⟨ruleType, description, sourceLine, -⟩
    exact ⟨ruleType, description, sourceLine⟩
  · rintro ⟨ruleType, description, sourceLine⟩
    exact ⟨ruleType, description, sourceLine, by simp⟩

/-- A list of objects says what the violations are if each object does. -/
theorem mapM_read?_eq_some_iff
    {elements : List Tree}
    (violations : List Violation)
    (objects : AllObjects elements) :
    elements.mapM read? = some violations
      ↔ List.Forall₂
        (fun violation element =>
          ∃ members, element = .object members ∧ violation.SaidBy members)
        violations elements :=
  mapM_eq_some_iff_forall₂ objects fun _ _ _ => read?_object

end Violation

/-! ## Reports -/

namespace FileReport

def violationsMeaning (bound : Nat) : FieldMeaning FileReport where
  name := "Violations"
  presence := .optional
  read := (fun value report => { report with violations := value.getD [] })
    <$> nullable (list (record Violation.shape bound) bound)
  Value := List Violation
  value? tree := (tree.nullable? (Tree.list? Violation.read?)).map (·.getD [])
  put value report := { report with violations := value }
  get := violations

def meanings (bound : Nat) : List (FieldMeaning FileReport) := [
  textMeaning "FilePath" (fun value report => { report with path := value }) (·.path),
  numberMeaning "LinesOfCode" (fun value report => { report with linesOfCode := value })
    (·.linesOfCode),
  numberMeaning "LinesOfComments" (fun value report => { report with linesOfComments := value })
    (·.linesOfComments),
  violationsMeaning bound]

theorem makeUp_meanings : MakeUp (meanings bound) where
  distinct := by simp [meanings, textMeaning, numberMeaning, textField, numberField, violationsMeaning]
  get_put := by simp [meanings, textMeaning, numberMeaning, violationsMeaning]
  get_other := by
    simp [meanings, textMeaning, numberMeaning, textField, numberField, violationsMeaning]
  ext left right same := by
    simp [meanings, textMeaning, numberMeaning, violationsMeaning] at same
    cases left
    cases right
    simp_all

theorem implements_violationsMeaning :
    Implements bound (violationsMeaning bound).read (violationsMeaning bound).change? := by
  have change : (violationsMeaning bound).change? = fun tree =>
      (tree.nullable? (Tree.list? Violation.read?)).map
        fun value report => { report with violations := value.getD [] } := by
    funext tree
    simp [FieldMeaning.change?, violationsMeaning, Function.comp_def]
  rw [change]
  exact (Violation.describes_shape.implements_record.list.nullable).map _

theorem describes_shape : (shape bound).Describes bound (meanings bound) where
  fields_eq := rfl
  implements := by
    simp only [meanings, List.forall_mem_cons]
    exact ⟨implements_textMeaning, implements_numberMeaning, implements_numberMeaning,
      implements_violationsMeaning, by simp⟩

def read? (bound : Nat) : Tree → Option FileReport :=
  Tree.record? (meanings bound) (shape bound).blank

/-- The violations are given by at most one member, which may be null. -/
theorem given_violationsMeaning {report : FileReport}
    (objects : ∀ violations, .list violations ∈ valuesOf "Violations" members →
      AllObjects violations) :
    (violationsMeaning bound).Given (shape bound).blank members report
      ↔ Violation.AllSaidBy report.violations (valuesOf "Violations" members) := by
  have name : (violationsMeaning bound).name = "Violations" := rfl
  have presence : (violationsMeaning bound).presence ≠ .required := by simp [violationsMeaning]
  have kept : (violationsMeaning bound).get report = report.violations := rfl
  have blank : (violationsMeaning bound).get (shape bound).blank = [] := rfl
  rw [FieldMeaning.Given, name, kept, blank]
  generalize valuesOf "Violations" members = values at objects
  cases values with
  | nil =>
      constructor
      · rintro (⟨tree, only, -⟩ | ⟨-, -, none⟩)
        · contradiction
        · exact none
      · exact fun none => .inr ⟨rfl, presence, none⟩
  | cons tree more =>
      cases more with
      | cons second later => simp [Violation.AllSaidBy]
      | nil =>
          cases tree with
          | null => simp [Violation.AllSaidBy, violationsMeaning, Tree.nullable?, eq_comm]
          | list elements =>
              have read := Violation.mapM_read?_eq_some_iff report.violations
                (objects elements List.mem_cons_self)
              rw [Violation.AllSaidBy, ← read]
              simp [violationsMeaning, Tree.nullable?, Tree.list?]
          | boolean | number | text | object =>
              simp [Violation.AllSaidBy, violationsMeaning, Tree.nullable?, Tree.list?]

theorem read?_object {report : FileReport}
    (objects : ∀ violations, .list violations ∈ valuesOf "Violations" members →
      AllObjects violations) :
    read? bound (.object members) = some report ↔ report.SaidBy members := by
  rw [read?, Tree.record?, fill?_eq_some_iff makeUp_meanings]
  simp only [meanings, List.forall_mem_cons, given_textMeaning, given_numberMeaning,
    given_violationsMeaning objects]
  constructor
  · rintro ⟨path, linesOfCode, linesOfComments, violations, -⟩
    exact ⟨path, linesOfCode, linesOfComments, violations⟩
  · rintro ⟨path, linesOfCode, linesOfComments, violations⟩
    exact ⟨path, linesOfCode, linesOfComments, violations, by simp⟩

def readAll? (bound : Nat) (tree : Tree) : Option (List FileReport) :=
  (tree.nullable? (Tree.list? (read? bound))).map (·.getD [])

theorem implements_listReader : Implements bound (listReader bound) (readAll? bound) :=
  describes_shape.implements_record.list.nullable.map (·.getD [])

/-- Where reports are objects, a document gives exactly the reports that it says. -/
theorem readAll?_eq_some_iff {tree : Tree} {reports : List FileReport}
    (objectForm : ObjectForm tree) :
    readAll? bound tree = some reports ↔ AllSaidBy reports tree := by
  cases tree with
  | null => simp [readAll?, Tree.nullable?, AllSaidBy, eq_comm]
  | list elements =>
      obtain ⟨objects, inside⟩ := objectForm elements rfl
      have read : elements.mapM (read? bound) = some reports ↔ _ :=
        mapM_eq_some_iff_forall₂ objects fun members known _ =>
          read?_object fun violations => inside members violations known
      rw [AllSaidBy, ← read]
      simp [readAll?, Tree.nullable?, Tree.list?]
  | _ => simp [readAll?, Tree.nullable?, Tree.list?, AllSaidBy]

/-- The text of a document with white space around it. -/
def documentText (before : Space) (document : Document) (after : Space) : String :=
  String.ofList (before.chars ++ document.chars ++ after.chars)

theorem isBlank_of_isDigit {c : Char} (digit : c.isDigit = true) : Text.isBlank c = false := by
  have range : 48 ≤ c.toNat ∧ c.toNat ≤ 57 := by
    simpa [Char.isDigit, UInt32.le_iff_toNat_le] using digit
  simp only [Text.isBlank, Text.inRanges, Text.blankRanges, List.any_eq_false, List.mem_cons]
  rintro bounds (rfl | rfl | rfl | rfl | rfl | rfl | rfl | rfl | rfl | rfl | inside)
  all_goals simp_all
  all_goals omega

/-- A document has a character that is not white space in any grammar. -/
theorem exists_solid (document : Document) : ∃ c ∈ document.chars, Text.isBlank c = false := by
  cases document with
  | null => exact ⟨'n', by simp [Document.chars], by decide⟩
  | boolean value => cases value <;> exact ⟨'e', by simp [Document.chars], by decide⟩
  | number written =>
      obtain ⟨c, more, spelled, digit⟩ := written.magnitudeText_eq_cons
      refine ⟨c, ?_, isBlank_of_isDigit digit⟩
      rw [Document.chars, NumberText.text]
      split <;> simp [spelled]
  | text spelled => exact ⟨'"', by simp [Document.chars, spelledText], by decide⟩
  | list space elements => exact ⟨'[', by simp [Document.chars], by decide⟩
  | object space members => exact ⟨'\x7b', by simp [Document.chars], by decide⟩

/-- A document is decoded to what its tree is read as, and is malformed if that is
nothing. -/
theorem decodeAll_documentText (before after : Space) (document : Document) :
    ∃ bound,
      (∀ reports, decodeAll (documentText before document after) = .ok reports
          ↔ readAll? bound document.tree = some reports)
        ∧ ((∃ refusal, decodeAll (documentText before document after) = .error (.malformed refusal))
          ↔ readAll? bound document.tree = none) := by
  have spelled : (documentText before document after).toList
      = before.chars ++ document.chars ++ after.chars :=
    String.toList_ofList
  have notBlank : (before.chars ++ document.chars ++ after.chars).all Text.isBlank = false := by
    obtain ⟨c, inside, solid⟩ := exists_solid document
    rw [List.all_eq_false]
    exact ⟨c, by simp [inside], by simp [solid]⟩
  have fits : document.chars.length ≤ (before.chars ++ document.chars ++ after.chars).length := by
    simp only [List.length_append]
    omega
  have read := (implements_listReader.decides document fits).document before after
    implements_listReader.ignores
  refine ⟨(before.chars ++ document.chars ++ after.chars).length, ?_⟩
  simp only [decodeAll, spelled, notBlank, Bool.false_eq_true, if_false, ← read]
  cases Json.document (listReader (before.chars ++ document.chars ++ after.chars).length)
      (before.chars ++ document.chars ++ after.chars) with
  | ok reports => simp [Except.toOption]
  | error fault => simp [Except.toOption]

/-- The output of an analyzer is decoded to the reports that its document says, and is
malformed exactly if it says none. -/
theorem decodeAll_iff_allSaidBy
    (before after : Space)
    (document : Document)
    (objectForm : ObjectForm document.tree) :
    (∀ reports, decodeAll (documentText before document after) = .ok reports
        ↔ AllSaidBy reports document.tree)
      ∧ ((∃ refusal, decodeAll (documentText before document after) = .error (.malformed refusal))
        ↔ ∀ reports, ¬ AllSaidBy reports document.tree) := by
  obtain ⟨bound, decoded, malformed⟩ := decodeAll_documentText before after document
  have said (reports : List FileReport) :
      readAll? bound document.tree = some reports ↔ AllSaidBy reports document.tree :=
    readAll?_eq_some_iff objectForm
  constructor
  · intro reports
    rw [decoded, said]
  · rw [malformed, Option.eq_none_iff_forall_ne_some]
    exact forall_congr' fun reports => not_congr (said reports)

/-- A report with a member that no field has, whose value is passed over. -/
def reportDocument : Document :=
  .list .none [(.none, .object .none [
    (.plain "Tool", .list .none [(.none, .object .none [], .none)], .none),
    (.plain "LinesOfComments", .number ⟨true, 2, none, none⟩, .none),
    (.plain "FilePath", .text (spell "a\n.go"), .none),
    (.plain "LinesOfCode", .number ⟨false, 3, none, none⟩, .none)], .none)]

theorem tree_reportDocument :
    reportDocument.tree = .list [.object [
      ("Tool", .list [.object []]),
      ("LinesOfComments", .number ⟨true, 2, none, none⟩),
      ("FilePath", .text "a\n.go"),
      ("LinesOfCode", .number ⟨false, 3, none, none⟩)]] := by
  simp [reportDocument, Document.tree, Document.elementTrees, Document.memberTrees,
    MemberName.plain, spelledString_spell]

/-- The report is decoded; its violations were left out. -/
theorem decodeAll_reportDocument :
    ObjectForm reportDocument.tree
      ∧ decodeAll (documentText .none reportDocument .none) = .ok [⟨"a\n.go", 3, -2, []⟩] := by
  have objectForm : ObjectForm reportDocument.tree := by
    rw [tree_reportDocument]
    rintro elements same
    obtain rfl := Tree.list.inj same
    refine ⟨by simp [AllObjects], ?_⟩
    intro members violations known inside
    obtain rfl : members = _ := by simpa using known
    simp [valuesOf] at inside
  refine ⟨objectForm, ((decodeAll_iff_allSaidBy _ _ _ objectForm).1 _).mpr ?_⟩
  rw [tree_reportDocument]
  refine .cons ⟨_, rfl, ?_⟩ .nil
  exact ⟨rfl, ⟨_, rfl, rfl⟩, ⟨_, rfl, rfl⟩, rfl⟩

end FileReport

end Findings
