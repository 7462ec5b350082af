import Findings.Issue.Codec
import Findings.Proofs.Report.Codec

/-!
Contract: metrics, rule keys and issues that are written are read back, and with
them the whole of what is written.

Owns:
- the line of an issue, absent or any number of 32 bits;
- decoding after encoding for every kind of value that is written, and the
  injectivity of the encodings.

Does not own: spellings that no value is written as.
-/

namespace Findings

open Json

variable {bound : Nat}

/-! ## Rule keys -/

theorem RuleKey.fills (key : RuleKey) :
    RuleKey.shape.Fills [] RuleKey.shape.blank
      [("repository", .text key.repository), ("rule", .text key.rule)] key :=
  .field rfl (by simp) reads_textField
    (.field rfl (by simp) reads_textField
      (.done rfl))

/-- A written rule key is read back. -/
theorem RuleKey.reads_toJson {key : RuleKey} (fits : key.toJson.compact.length ≤ bound) :
    Reads (record RuleKey.shape bound) key.toJson.compact key :=
  reads_record key.fills fits

/-! ## Issues -/

/-- The line of a written issue is read back. -/
theorem NewIssue.reads_line (line : Option UInt32) :
    Reads (nullable (integer 0 (UInt32.size - 1) "u32"))
      (Value.ofOption (line.map fun line => (line.toNat : Int))).compact
      (line.map fun line => (line.toNat : Int)) := by
  apply reads_nullable_integer
  · intro number given
    obtain ⟨line, -, rfl⟩ := Option.map_eq_some_iff.mp given
    have small := line.toNat_lt_size
    omega
  · decide

theorem NewIssue.fills {issue : NewIssue} (fits : issue.toJson.compact.length ≤ bound) :
    (NewIssue.shape bound).Fills [] (NewIssue.shape bound).blank
      [("rule", issue.rule.toJson),
        ("message", .text issue.message),
        ("line", .ofOption (issue.line.map fun line => (line.toNat : Int)))]
      issue := by
  have part : issue.rule.toJson.compact.length ≤ bound :=
    Nat.le_trans (Value.length_le_object_of_mem List.mem_cons_self) fits
  obtain ⟨rule, message, line⟩ := issue
  have kept : (line.map fun line => (line.toNat : Int)).map (fun line => UInt32.ofNat line.toNat)
      = line := by
    simp [Option.map_map, Function.comp_def]
  have lineUpdate := (reads_line line).map fun value (issue : NewIssue) =>
    { issue with line := value.map fun (line : Int) => UInt32.ofNat line.toNat }
  rw [kept] at lineUpdate
  exact .field rfl (by simp) ((RuleKey.reads_toJson part).map _)
    (.field rfl (by simp) reads_textField
      (.field rfl (by simp) lineUpdate
        (.done rfl)))

/-- A written issue is read back. -/
theorem NewIssue.reads_toJson {issue : NewIssue} (fits : issue.toJson.compact.length ≤ bound) :
    Reads (record (NewIssue.shape bound) bound) issue.toJson.compact issue :=
  reads_record (fills fits) fits

/-! ## Whole texts -/

theorem Metric.decode_toJson (metric : Metric) : decode metric.toJson.compactText = .ok metric := by
  cases metric with
  | linesOfCode =>
      have read := (reads_variant Metric.linesOfCode.name).document
      rw [decode, toJson, Value.toList_compactText]
      simp [read]

theorem RuleKey.decode_toJson (key : RuleKey) : decode key.toJson.compactText = .ok key := by
  have read := (reads_toJson (Nat.le_refl key.toJson.compact.length)).document
  rw [decode, Value.toList_compactText, read]
  rfl

theorem NewIssue.decode_toJson (issue : NewIssue) : decode issue.toJson.compactText = .ok issue := by
  have read := (reads_toJson (Nat.le_refl issue.toJson.compact.length)).document
  rw [decode, Value.toList_compactText, read]
  rfl

/-- What is undone by a decoder is injective. -/
theorem injective_of_decode
    {α ε : Type}
    {decode : String → Except ε α}
    {encode : α → String}
    (undone : ∀ value, decode (encode value) = .ok value) :
    Function.Injective encode := by
  intro left right same
  have decoded := congrArg decode same
  rw [undone, undone] at decoded
  exact Except.ok.inj decoded

/-- Decoding undoes encoding: for lists of reports, as the whole output of an
analyzer, and for violations, metrics, rule keys and issues.  So no two values
of one kind are written alike. -/
theorem wireForms_roundTrip :
    ((∀ reports, FileReport.decodeAll (FileReport.encodeAll reports) = .ok reports)
      ∧ (∀ violation : Violation, Violation.decode violation.toJson.compactText = .ok violation)
      ∧ (∀ metric : Metric, Metric.decode metric.toJson.compactText = .ok metric)
      ∧ (∀ key : RuleKey, RuleKey.decode key.toJson.compactText = .ok key)
      ∧ (∀ issue : NewIssue, NewIssue.decode issue.toJson.compactText = .ok issue))
    ∧ (Function.Injective FileReport.encodeAll
      ∧ Function.Injective (fun violation : Violation => violation.toJson.compactText)
      ∧ Function.Injective (fun metric : Metric => metric.toJson.compactText)
      ∧ Function.Injective (fun key : RuleKey => key.toJson.compactText)
      ∧ Function.Injective (fun issue : NewIssue => issue.toJson.compactText)) := by
  refine ⟨⟨?_, ?_, ?_, ?_, ?_⟩, ?_, ?_, ?_, ?_, ?_⟩
  · exact FileReport.decodeAll_encodeAll
  · exact Violation.decode_toJson
  · exact Metric.decode_toJson
  · exact RuleKey.decode_toJson
  · exact NewIssue.decode_toJson
  · exact injective_of_decode FileReport.decodeAll_encodeAll
  · exact injective_of_decode Violation.decode_toJson
  · exact injective_of_decode Metric.decode_toJson
  · exact injective_of_decode RuleKey.decode_toJson
  · exact injective_of_decode NewIssue.decode_toJson

end Findings
