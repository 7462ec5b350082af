import Mathlib
import Findings.CommandLine.Output
import Findings.Proofs.Json.Indented
import Findings.Proofs.Json.Schema

/-!
Contract: what is written about a pass in JSON, read back.

Owns:
- `Account`, the counts, measures and issues that somebody is told of;
- `Account.read?`, which takes them from a tree by the names of its members;
- the law that the JSON form of a pass is a document from which exactly its
  counts, measures and issues are read.

Numbers are read only within the bounds of what they count, and members of any
other name are passed over.
-/

namespace Findings

open Json

variable {α : Type}

/-! ## Reading -/

/-- What the only member of a name stands for. -/
def Json.Tree.field? (name : String) (meaning : Tree → Option α) : Tree → Option α
  | .object members =>
    match valuesOf name members with
    | [value] => meaning value
    | _ => none
  | _ => none

def Json.Tree.natural? : Tree → Option Nat
  | .number written => written.integer?.bind Int.toNat?
  | _ => none

def Json.Tree.int64? (tree : Tree) : Option Int64 :=
  (tree.integer? Int64.minValue.toInt Int64.maxValue.toInt).map Int64.ofInt

def Json.Tree.uint32? (tree : Tree) : Option UInt32 :=
  (tree.integer? 0 (UInt32.size - 1)).map fun value => UInt32.ofNat value.toNat

def Metric.ofName? (name : String) : Option Metric :=
  if name = "NCLOC" then some .linesOfCode else none

namespace CommandLine

structure Account where
  summary : Summary
  measures : List RecordedMeasure
  issues : List RecordedIssue
deriving DecidableEq, Repr

namespace Account

def readSummary? (tree : Tree) : Option Summary := do
  return {
    filesReported := ← tree.field? "files_reported" Tree.natural?
    filesMatched := ← tree.field? "files_matched" Tree.natural?
    filesSkipped := ← tree.field? "files_skipped" Tree.natural?
    metricsApplied := ← tree.field? "metrics_applied" Tree.natural?
    issuesApplied := ← tree.field? "issues_applied" Tree.natural?
    issuesRejected := ← tree.field? "issues_rejected" Tree.natural? }

def readMeasure? (tree : Tree) : Option RecordedMeasure := do
  return {
    file := ← tree.field? "file" Tree.text?
    metric := ← (← tree.field? "metric" Tree.text?) |> Metric.ofName?
    value := ← tree.field? "value" Tree.int64? }

def readRule? (tree : Tree) : Option RuleKey := do
  return {
    repository := ← tree.field? "repository" Tree.text?
    rule := ← tree.field? "rule" Tree.text? }

def readIssue? (tree : Tree) : Option RecordedIssue := do
  return {
    file := ← tree.field? "file" Tree.text?
    rule := ← tree.field? "rule" readRule?
    message := ← tree.field? "message" Tree.text?
    line := ← tree.field? "line" (Tree.nullable? Tree.uint32?) }

def read? (tree : Tree) : Option Account := do
  return {
    summary := ← tree.field? "summary" readSummary?
    measures := ← tree.field? "measures" (Tree.list? readMeasure?)
    issues := ← tree.field? "issues" (Tree.list? readIssue?) }

/-! ## What is read back -/

theorem text?_tree (value : String) : (Value.text value).tree.text? = some value := by
  rw [Value.tree, Tree.text?]

theorem natural?_tree (n : Nat) : (Value.integer n).tree.natural? = some n := by
  rw [Value.tree, Tree.natural?, NumberText.integer?_ofInt, Option.bind_some]
  rfl

theorem integer?_tree {least greatest value : Int} (inside : least ≤ value ∧ value ≤ greatest) :
    (Value.integer value).tree.integer? least greatest = some value := by
  rw [Value.tree, Tree.integer?, NumberText.integer?_ofInt, Option.filter_some]
  exact if_pos (decide_eq_true inside)

theorem int64?_tree (value : Int64) : (Value.integer value.toInt).tree.int64? = some value := by
  rw [Tree.int64?, integer?_tree ⟨value.minValue_le_toInt, value.toInt_le⟩, Option.map_some,
    Int64.ofInt_toInt]

/-- A line number is read back, and so is that there is none. -/
theorem nullable?_tree (line : Option UInt32) :
    (Value.ofOption (line.map fun line => (line.toNat : Int))).tree.nullable? Tree.uint32?
      = some line := by
  cases line with
  | none => rw [Option.map_none, Value.ofOption, Value.tree, Tree.nullable?]
  | some line =>
      have inside : (0 : Int) ≤ line.toNat ∧ (line.toNat : Int) ≤ UInt32.size - 1 := by
        have below := line.toNat_lt
        simp only [UInt32.size]
        omega
      have read : (Value.integer line.toNat).tree.uint32? = some line := by
        rw [Tree.uint32?, integer?_tree inside, Option.map_some, Int.toNat_natCast,
          UInt32.ofNat_toNat]
      rw [Option.map_some, Value.ofOption, Value.tree, Tree.nullable?, ← Value.tree, read]
      · rfl
      · simp

/-- A list is read back if its elements are. -/
theorem list?_map {meaning : Tree → Option α} {write : α → Value} {entries : List α}
    (each : ∀ entry, meaning (write entry).tree = some entry) :
    (Value.list (entries.map write)).tree.list? meaning = some entries := by
  rw [Value.tree, Tree.list?, Value.elementTrees_eq, List.map_map]
  induction entries with
  | nil => rfl
  | cons entry entries inductionHypothesis =>
      rw [List.map_cons, List.mapM_cons, Function.comp_apply, each, inductionHypothesis]
      rfl

/-- A member of an object is read by its name. -/
theorem tree_object (members : List (String × Value)) :
    (Value.object members).tree = .object (members.map fun member => (member.1, member.2.tree)) := by
  rw [Value.tree, Value.memberTrees_eq]

theorem readSummary?_tree (summary : Summary) :
    readSummary? (summaryJson summary).tree = some summary := by
  simp [readSummary?, summaryJson, tree_object, Tree.field?, valuesOf, natural?_tree]

theorem readMeasure?_tree (measure : RecordedMeasure) :
    readMeasure? (measureJson measure).tree = some measure := by
  have metric : Metric.ofName? measure.metric.name = some measure.metric := by
    cases measure.metric
    rfl
  simp [readMeasure?, measureJson, Metric.toJson, tree_object, Tree.field?, valuesOf, text?_tree,
    int64?_tree, metric]

theorem readRule?_tree (key : RuleKey) : readRule? key.toJson.tree = some key := by
  simp [readRule?, RuleKey.toJson, tree_object, Tree.field?, valuesOf, text?_tree]

theorem readIssue?_tree (issue : RecordedIssue) :
    readIssue? (issueJson issue).tree = some issue := by
  simp [readIssue?, issueJson, tree_object, Tree.field?, valuesOf, text?_tree, readRule?_tree,
    nullable?_tree]

/-- The JSON form of a pass tells exactly its counts, measures and issues. -/
theorem read?_outputJson (summary : Summary) (host : RecordingHost) :
    read? (outputJson summary host).tree = some ⟨summary, host.measures, host.issues⟩ := by
  have measures : (Value.list (host.measures.map measureJson)).tree.list? readMeasure?
      = some host.measures := list?_map readMeasure?_tree
  have issues : (Value.list (host.issues.map issueJson)).tree.list? readIssue?
      = some host.issues := list?_map readIssue?_tree
  simp [read?, outputJson, tree_object, Tree.field?, valuesOf, readSummary?_tree, measures, issues]

end Account

end CommandLine

end Findings
