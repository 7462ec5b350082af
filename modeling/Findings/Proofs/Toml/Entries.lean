import Findings.Proofs.Dictionary
import Findings.Toml.Value

/-!
Contract: the tables of a document while it is read.

Owns:
- every way to extend a table as a change of what one key holds;
- `Value.Distinct` and `Node.Distinct`, in which no table has a key twice, at any
  depth;
- the law that no way to extend a table gives it a key twice.

Does not own: which lines extend which tables.
-/

namespace Findings.Toml

variable {key : String} {path : List String} {value : Value} {node : Node}
  {entries result inner : Entries} {change : Option Node → Option Node}
  {changeAll : Entries → Option Entries}

/-! ## Changes of a key -/

/-- A change of what a key holds is the change of a single entry. -/
theorem Entries.alter_eq :
    entries.alter key change
      = (change (entries.lookup key)).map fun node => Dictionary.put key node entries := by
  induction entries with
  | nil =>
    rw [Entries.alter, Option.map_eq_bind]
    rfl
  | cons entry more inductionHypothesis =>
    obtain ⟨name, held⟩ := entry
    by_cases same : name = key
    · subst same
      rw [Entries.alter, if_pos rfl, List.lookup_cons_self, Option.map_eq_bind]
      simp only [Dictionary.put, if_pos]
      rfl
    · have apart : (key == name) = false := beq_false_of_ne fun other => same other.symm
      rw [Entries.alter, if_neg same, inductionHypothesis, List.lookup_cons, apart]
      cases change (more.lookup key) with
      | none => rfl
      | some node => simp [Dictionary.put, same]

theorem Entries.alterAt_nil : entries.alterAt [] changeAll = changeAll entries :=
  rfl

/-- A key without dots is given a value only if it holds nothing. -/
theorem Entries.insert_single :
    entries.insert [key] value
      = entries.alter key fun
          | none => some (.value value)
          | some _ => none :=
  rfl

/-! ## Distinct keys -/

/-- A value in which no table has a key twice. -/
inductive Value.Distinct : Value → Prop
  | string {text : String} : Distinct (.string text)
  | integer {number : Int} : Distinct (.integer number)
  | float {written : String} : Distinct (.float written)
  | boolean {value : Bool} : Distinct (.boolean value)
  | dateTime {written : String} : Distinct (.dateTime written)
  | array {elements : List Value} (all : ∀ element ∈ elements, Distinct element) :
      Distinct (.array elements)
  | table {entries : List (String × Value)} (keys : (entries.map Prod.fst).Nodup)
      (all : ∀ entry ∈ entries, Distinct entry.2) : Distinct (.table entries)

/-- What a key holds, if no table in it has a key twice. -/
inductive Node.Distinct : Node → Prop
  | value {value : Value} (distinct : value.Distinct) : Distinct (.value value)
  | table {origin : Origin} {entries : Entries} (keys : (entries.map Prod.fst).Nodup)
      (all : ∀ entry ∈ entries, Distinct entry.2) : Distinct (.table origin entries)
  | tables {elements : List Entries} (keys : ∀ entries ∈ elements, (entries.map Prod.fst).Nodup)
      (all : ∀ entries ∈ elements, ∀ entry ∈ entries, Distinct entry.2) :
      Distinct (.tables elements)

/-- A table in which no key stands twice, nor in any table in it. -/
structure Entries.Distinct (entries : Entries) : Prop where
  keys : (entries.map Prod.fst).Nodup
  all : ∀ entry ∈ entries, entry.2.Distinct

theorem Entries.distinct_nil : Entries.Distinct [] :=
  ⟨List.nodup_nil, by simp⟩

theorem Entries.Distinct.toNode {origin : Origin} (distinct : entries.Distinct) :
    (Node.table origin entries).Distinct :=
  .table distinct.keys distinct.all

theorem Entries.distinct_of_node {origin : Origin} (distinct : (Node.table origin entries).Distinct) :
    entries.Distinct := by
  cases distinct with
  | table keys all => exact ⟨keys, all⟩

theorem Node.distinct_tables_cons {elements : List (List (String × Node))} :
    (Node.tables (entries :: elements)).Distinct
      ↔ entries.Distinct ∧ (Node.tables elements).Distinct := by
  constructor
  · rintro (_ | _ | ⟨keys, all⟩)
    exact ⟨⟨keys _ List.mem_cons_self, all _ List.mem_cons_self⟩,
      .tables (fun entries member => keys _ (List.mem_cons_of_mem _ member))
        fun entries member => all _ (List.mem_cons_of_mem _ member)⟩
  · rintro ⟨first, _ | _ | ⟨keys, all⟩⟩
    exact .tables (List.forall_mem_cons.mpr ⟨first.keys, keys⟩)
      (List.forall_mem_cons.mpr ⟨first.all, all⟩)

/-- A change of what a key holds that makes no key stand twice. -/
def KeepsDistinct (change : Option Node → Option Node) : Prop :=
  ∀ held node, (∀ old ∈ held, old.Distinct) → change held = some node → node.Distinct

/-- Changing what a key holds adds at most the key itself, and only if it is not there.
-/
theorem Entries.Distinct.alter (distinct : entries.Distinct) (keeps : KeepsDistinct change)
    (altered : entries.alter key change = some result) : result.Distinct := by
  rw [Entries.alter_eq, Option.map_eq_some_iff] at altered
  obtain ⟨node, changed, rfl⟩ := altered
  have old : ∀ held ∈ entries.lookup key, held.Distinct := fun held found =>
    distinct.all _ (Dictionary.mem_of_lookup found)
  refine ⟨Dictionary.nodup_keys_put distinct.keys, ?_⟩
  intro entry member
  rcases Dictionary.mem_put member with rfl | before
  · exact keeps _ _ old changed
  · exact distinct.all entry before

/-- A change of a whole table that gives it no key twice. -/
def KeepsAllDistinct (changeAll : Entries → Option Entries) : Prop :=
  ∀ entries result : Entries, entries.Distinct → changeAll entries = some result →
    result.Distinct

/-- The change of a table somewhere inside leaves all tables with different keys. -/
theorem Entries.Distinct.alterAt (distinct : entries.Distinct)
    (keeps : KeepsAllDistinct changeAll)
    (altered : entries.alterAt path changeAll = some result) : result.Distinct := by
  induction path generalizing entries result with
  | nil => exact keeps _ _ distinct altered
  | cons key more inductionHypothesis =>
    apply distinct.alter _ altered
    intro held node old changed
    dsimp only at changed
    split at changed
    case h_1 =>
      obtain ⟨inner, below, made⟩ := Option.bind_eq_some_iff.mp changed
      cases made
      exact (inductionHypothesis distinct_nil below).toNode
    case h_2 origin first =>
      obtain ⟨inner, below, made⟩ := Option.bind_eq_some_iff.mp changed
      cases made
      exact (inductionHypothesis (distinct_of_node (old _ rfl)) below).toNode
    case h_3 last before =>
      obtain ⟨inner, below, made⟩ := Option.bind_eq_some_iff.mp changed
      cases made
      obtain ⟨lastDistinct, others⟩ := Node.distinct_tables_cons.mp (old _ rfl)
      exact Node.distinct_tables_cons.mpr ⟨inductionHypothesis lastDistinct below, others⟩
    case h_4 => contradiction

/-- A change of one key of the table that a path leads to. -/
theorem Entries.Distinct.alterKeyAt (distinct : entries.Distinct) (keeps : KeepsDistinct change)
    (altered : entries.alterAt path (Entries.alter key change) = some result) :
    result.Distinct :=
  distinct.alterAt (fun _ _ innerDistinct made => innerDistinct.alter keeps made) altered

theorem Entries.Distinct.insert (distinct : entries.Distinct) (good : value.Distinct)
    (inserted : entries.insert path value = some result) : result.Distinct := by
  induction path generalizing entries result with
  | nil => contradiction
  | cons key more inductionHypothesis =>
    cases more with
    | nil =>
      apply distinct.alter _ inserted
      intro held node old changed
      dsimp only at changed
      split at changed
      · cases changed
        exact .value good
      · contradiction
    | cons next further =>
      apply distinct.alter _ inserted
      intro held node old changed
      dsimp only at changed
      split at changed
      case h_1 =>
        obtain ⟨inner, below, made⟩ := Option.bind_eq_some_iff.mp changed
        cases made
        exact (inductionHypothesis distinct_nil below).toNode
      case h_3 origin first _ =>
        obtain ⟨inner, below, made⟩ := Option.bind_eq_some_iff.mp changed
        cases made
        exact (inductionHypothesis (distinct_of_node (old _ rfl)) below).toNode
      all_goals contradiction

/-- The header of a table makes no key come twice. -/
theorem Entries.Distinct.openTable (distinct : entries.Distinct)
    (opened : entries.openTable path = some result) : result.Distinct := by
  obtain ⟨key, -, altered⟩ := Option.bind_eq_some_iff.mp opened
  apply distinct.alterKeyAt _ altered
  intro held node old put
  dsimp only at put
  split at put
  case h_1 =>
    cases put
    exact distinct_nil.toNode
  case h_2 first =>
    cases put
    exact (distinct_of_node (old _ rfl)).toNode
  case h_3 => contradiction

theorem Entries.Distinct.appendTable (distinct : entries.Distinct)
    (appended : entries.appendTable path = some result) : result.Distinct := by
  obtain ⟨key, -, altered⟩ := Option.bind_eq_some_iff.mp appended
  apply distinct.alterKeyAt _ altered
  intro held node old put
  dsimp only at put
  split at put
  case h_1 =>
    cases put
    exact Node.distinct_tables_cons.mpr ⟨distinct_nil, .tables (by simp) (by simp)⟩
  case h_2 elements =>
    cases put
    exact Node.distinct_tables_cons.mpr ⟨distinct_nil, old _ rfl⟩
  case h_3 => contradiction

/-! ## Tables that are read -/

theorem entriesToValues_eq :
    entriesToValues entries = entries.map fun entry => (entry.1, entry.2.toValue) := by
  induction entries with
  | nil => rfl
  | cons entry more inductionHypothesis =>
    rw [entriesToValues, inductionHypothesis, List.map_cons]

theorem elementsToValues_eq {elements : List Entries} :
    elementsToValues elements = elements.map fun entries => .table (entriesToValues entries) := by
  induction elements with
  | nil => rfl
  | cons entries more inductionHypothesis =>
    rw [elementsToValues, inductionHypothesis, List.map_cons]

/-- The keys of a table stay when it is read to its end. -/
theorem keys_entriesToValues : (entriesToValues entries).map Prod.fst = entries.map Prod.fst := by
  rw [entriesToValues_eq, List.map_map]
  rfl

/-- A table that is read to its end has the different keys that it had before. -/
theorem Node.Distinct.toValue (distinct : node.Distinct) : node.toValue.Distinct := by
  induction distinct with
  | value good => exact good
  | @table origin entries keys all inductionHypothesis =>
    rw [Node.toValue]
    refine .table (keys_entriesToValues ▸ keys) ?_
    rw [entriesToValues_eq, List.forall_mem_map]
    exact inductionHypothesis
  | @tables elements keys all inductionHypothesis =>
    rw [Node.toValue, elementsToValues_eq]
    refine .array ?_
    intro element member
    obtain ⟨entries, inside, rfl⟩ := List.mem_map.mp (List.mem_reverse.mp member)
    refine .table (keys_entriesToValues ▸ keys _ inside) ?_
    rw [entriesToValues_eq, List.forall_mem_map]
    exact inductionHypothesis _ inside

theorem Entries.Distinct.toValues (distinct : entries.Distinct) :
    (Value.table (entriesToValues entries)).Distinct :=
  (@Entries.Distinct.toNode _ .implicit distinct).toValue

end Findings.Toml
