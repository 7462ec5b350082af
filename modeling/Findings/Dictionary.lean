/-!
Contract: finite maps from texts.

Owns:
- `Dictionary`, whose keys are distinct and keep the order in which they first
  came;
- `insert`, after which the key has the new value and its old place;
- one law for each operation, in terms of `get?`.
-/

namespace Findings

/-! ## Entries -/

namespace Dictionary

def put {α : Type} (key : String) (value : α) : List (String × α) → List (String × α)
  | [] => [(key, value)]
  | (name, held) :: more =>
    if name = key then (name, value) :: more else (name, held) :: put key value more

theorem mem_keys_put {α : Type} {key name : String} {value : α}
    {entries : List (String × α)} :
    name ∈ (put key value entries).map Prod.fst
      ↔ name = key ∨ name ∈ entries.map Prod.fst := by
  induction entries with
  | nil => simp [put]
  | cons entry more inductionHypothesis =>
    obtain ⟨first, held⟩ := entry
    by_cases same : first = key
    · subst same
      simp [put]
    · simp only [put, if_neg same, List.map_cons, List.mem_cons, inductionHypothesis]
      grind

theorem nodup_keys_put {α : Type} {key : String} {value : α} {entries : List (String × α)}
    (distinct : (entries.map Prod.fst).Nodup) :
    ((put key value entries).map Prod.fst).Nodup := by
  induction entries with
  | nil => simp [put]
  | cons entry more inductionHypothesis =>
    obtain ⟨first, held⟩ := entry
    rw [List.map_cons, List.nodup_cons] at distinct
    by_cases same : first = key
    · simpa [put, same] using distinct
    · rw [put, if_neg same, List.map_cons, List.nodup_cons]
      refine ⟨?_, inductionHypothesis distinct.2⟩
      rw [mem_keys_put]
      exact fun member => member.elim same distinct.1

theorem lookup_put {α : Type} {key name : String} {value : α} {entries : List (String × α)} :
    (put key value entries).lookup name
      = if name = key then some value else entries.lookup name := by
  induction entries with
  | nil => grind [put]
  | cons entry more inductionHypothesis =>
    obtain ⟨first, held⟩ := entry
    by_cases same : first = key <;> grind [put]

end Dictionary

/-! ## Dictionaries -/

/-- A finite map from texts.  The keys keep the order in which they first
came. -/
structure Dictionary (α : Type) where
  entries : List (String × α)
  distinct : (entries.map Prod.fst).Nodup

namespace Dictionary

def empty {α : Type} : Dictionary α :=
  ⟨[], List.nodup_nil⟩

def insert {α : Type} (dictionary : Dictionary α) (key : String) (value : α) :
    Dictionary α :=
  ⟨put key value dictionary.entries, nodup_keys_put dictionary.distinct⟩

/-- Gives each key of a list its value; of a repeated key the last value
stays. -/
def insertAll {α : Type} (dictionary : Dictionary α) (entries : List (String × α)) :
    Dictionary α :=
  entries.foldl (fun dictionary (key, value) => dictionary.insert key value) dictionary

/-- The dictionary of a list of keys with values; of a repeated key the last
value stays. -/
def ofList {α : Type} (entries : List (String × α)) : Dictionary α :=
  empty.insertAll entries

def get? {α : Type} (dictionary : Dictionary α) (key : String) : Option α :=
  dictionary.entries.lookup key

def size {α : Type} (dictionary : Dictionary α) : Nat :=
  dictionary.entries.length

@[simp]
theorem get?_empty {α : Type} {key : String} : (empty : Dictionary α).get? key = none :=
  rfl

@[simp]
theorem get?_insert {α : Type} {dictionary : Dictionary α} {key name : String} {value : α} :
    (dictionary.insert key value).get? name
      = if name = key then some value else dictionary.get? name :=
  lookup_put

/-- A later entry for a key wins over an earlier one. -/
theorem get?_insertAll {α : Type} {dictionary : Dictionary α} {entries : List (String × α)}
    {name : String} :
    (dictionary.insertAll entries).get? name
      = (entries.reverse.lookup name).or (dictionary.get? name) := by
  induction entries generalizing dictionary with
  | nil => simp [insertAll]
  | cons entry more inductionHypothesis =>
    obtain ⟨key, value⟩ := entry
    have step : dictionary.insertAll ((key, value) :: more)
        = (dictionary.insert key value).insertAll more := rfl
    rw [step, inductionHypothesis, get?_insert, List.reverse_cons, List.lookup_append]
    by_cases same : name = key
    · subst same
      simp
    · have apart : (name == key) = false := by simpa using same
      simp [same, apart, List.lookup_cons]

end Dictionary

end Findings
