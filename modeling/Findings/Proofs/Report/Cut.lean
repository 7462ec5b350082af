import Findings.Proofs.Json.CutRecord
import Findings.Proofs.Report.Codec

/-!
Contract: outputs of an analyzer that are too short or too long.

Owns:
- the fields of violations and reports, and both as records, in texts that were
  cut off;
- the written reports: no beginning of their text is a list of reports, and
  neither is the text with anything but white space behind it.

Does not own: outputs that no list of reports is written as.
-/

namespace Findings

open Json

variable {α : Type} {bound : Nat} {front : List Char}

/-! ## Fields -/

theorem takes_textField {name value : String} {put : String → α → α} :
    Takes (textField name put).read bound (Value.text value).compact (put value) :=
  takes_string.map

theorem takes_numberField {name : String} {value : Int64} {put : Int64 → α → α} :
    Takes (numberField name put).read bound (Value.integer value.toInt).compact (put value) := by
  have least := value.minValue_le_toInt
  have greatest := value.toInt_le
  have representable : value.toInt ≤ significandLimit :=
    Int.le_trans greatest (by decide)
  have taken : Takes (numberField name put).read bound (Value.integer value.toInt).compact
      (put (Int64.ofInt value.toInt)) :=
    (takes_integer ⟨least, greatest⟩ (by decide) ⟨least, representable⟩).map
  rwa [Int64.ofInt_toInt] at taken

/-! ## Records -/

theorem Violation.takes_toJson {violation : Violation} :
    Takes (record Violation.shape bound) bound violation.toJson.compact violation :=
  Shape.Gives.takes_record <|
    .field rfl (by simp) takes_textField
      (.field rfl (by simp) takes_textField
        (.field rfl (by simp) takes_numberField
          (.done rfl)))

theorem FileReport.takes_toJson {report : FileReport} :
    Takes (record (FileReport.shape bound) bound) bound report.toJson.compact report := by
  have violations : Takes (nullable (list (record Violation.shape bound) bound)) bound
      (Value.list (report.violations.map Violation.toJson)).compact (some report.violations) :=
    (takes_list fun _ _ => Violation.takes_toJson).nullable (by simp)
  exact Shape.Gives.takes_record <|
    .field rfl (by simp) takes_textField
      (.field rfl (by simp) takes_numberField
        (.field rfl (by simp) takes_numberField
          (.field rfl (by simp) violations.map
            (.done rfl))))

/-! ## Whole texts -/

/-- A text that does not start like a null has to be a list. -/
theorem FileReport.run_listReader
    {text : List Char}
    (starts : ∀ c ∈ text.head?, isSpace c = false ∧ c ≠ 'n') :
    (listReader bound).run text = (list (record (shape bound) bound) bound).run text := by
  rw [listReader, StateT.run_bind, run_nullable starts, StateT.run_map]
  cases (list (record (shape bound) bound) bound).run text <;> rfl

theorem FileReport.starves_listReader
    {reports : List FileReport}
    (fits : front.length ≤ bound)
    (cut : Cut front (Value.list (reports.map toJson)).compact) :
    Starves (listReader bound) front := by
  rw [Starves, run_listReader (starts_of_cut (by simp) cut)]
  exact starves_list (fun _ _ => takes_toJson) fits cut

/-- What starts with a bracket is not empty. -/
theorem FileReport.decodeAll_of_fault
    {text : String}
    {fault : Fault}
    (starts : text.toList.head? = some '[')
    (refused : document (listReader text.toList.length) text.toList = .error fault) :
    decodeAll text = .error (.malformed (fault.toRefusal text.toList)) := by
  have notBlank : text.toList.all Text.isBlank = false := by
    obtain ⟨more, spelled⟩ := List.head?_eq_some_iff.mp starts
    rw [spelled]
    rfl
  simp [decodeAll, notBlank, refused]

/-- A text of reports that was cut off is empty or refused as cut off. -/
theorem FileReport.decodeAll_of_cut
    {reports : List FileReport}
    {text : String}
    (cut : Cut text.toList (encodeAll reports).toList)
    (given : text ≠ "") :
    ∃ refusal, decodeAll text = .error (.malformed refusal)
      ∧ refusal.cause.category = .truncated := by
  rw [encodeAll, Value.toList_compactText] at cut
  have starts : text.toList.head? = some '[' := by
    rw [Value.compact_list, List.cons_append] at cut
    rcases cut_cons_iff.mp cut with isEmpty | ⟨more, spelled, -⟩
    · exact absurd (String.toList_eq_nil_iff.mp isEmpty) given
    · rw [spelled, List.head?_cons]
  obtain ⟨fault, refused, early⟩ := (starves_listReader (Nat.le_refl _) cut).document
  exact ⟨_, decodeAll_of_fault starts refused, early⟩

/-- A text of reports with more behind it than white space is refused. -/
theorem FileReport.decodeAll_of_trailing
    {reports : List FileReport}
    {extra : String}
    (solid : ∃ c ∈ extra.toList, isSpace c = false) :
    ∃ refusal, decodeAll (encodeAll reports ++ extra) = .error (.malformed refusal)
      ∧ refusal.cause = .trailingCharacters := by
  obtain ⟨chars, same⟩ : ∃ chars, (encodeAll reports ++ extra).toList = chars := ⟨_, rfl⟩
  have spelled : chars = (Value.list (reports.map toJson)).compact ++ extra.toList := by
    rw [← same, String.toList_append, encodeAll, Value.toList_compactText]
  have starts : chars.head? = some '[' := by
    rw [spelled, Value.compact_list]
    rfl
  have fits : (Value.list (reports.map toJson)).compact.length ≤ chars.length := by
    rw [spelled, List.length_append]
    exact Nat.le_add_right _ _
  have read : (listReader chars.length).run chars = .ok (reports, extra.toList) := by
    have elements := run_list fits (fun _ _ => reads_toJson) extra.toList
    rw [← spelled] at elements
    rw [run_listReader (by rw [starts]; simp [isSpace]), elements]
  obtain ⟨fault, refused, trailing⟩ := document_of_solid read solid
  rw [← same] at starts refused
  exact ⟨_, decodeAll_of_fault starts refused, trailing⟩

/-- A text of reports ends with its last bracket.  No beginning of it is read as any
reports: the empty one is empty, and every other is refused as cut off.  With
anything behind it but white space it is refused as well. -/
theorem FileReport.decodeAll_exact (reports : List FileReport) :
    (∀ text, Cut text.toList (encodeAll reports).toList →
      (text = "" → decodeAll text = .error .empty)
      ∧ (text ≠ "" → ∃ refusal, decodeAll text = .error (.malformed refusal)
        ∧ refusal.cause.category = .truncated))
    ∧ ∀ extra : String, (∃ c ∈ extra.toList, isSpace c = false) →
      ∃ refusal, decodeAll (encodeAll reports ++ extra) = .error (.malformed refusal)
        ∧ refusal.cause = .trailingCharacters := by
  refine ⟨fun text cut => ⟨?_, decodeAll_of_cut cut⟩, fun extra => decodeAll_of_trailing⟩
  rintro rfl
  rfl

/-- One report without lines, cut off inside an escape of its path, and twice. -/
theorem FileReport.decodeAll_exact_oneReport :
    let reports : List FileReport := [⟨"a\n", 1, -1, []⟩]
    let front := "[\x7b\"FilePath\":\"a\\"
    decodeAll "" = .error .empty
    ∧ (∃ refusal, decodeAll front = .error (.malformed refusal)
      ∧ refusal.cause.category = .truncated)
    ∧ ∃ refusal, decodeAll (encodeAll reports ++ encodeAll reports) = .error (.malformed refusal)
      ∧ refusal.cause = .trailingCharacters := by
  intro reports front
  obtain ⟨cutOff, trailing⟩ := decodeAll_exact reports
  exact ⟨(cutOff "" (by decide +kernel)).1 rfl,
    (cutOff front (by decide +kernel)).2 (by decide),
    trailing (encodeAll reports) ⟨'[', by decide +kernel, by decide⟩⟩

end Findings
