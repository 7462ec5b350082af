import Mathlib.Data.List.Nodup
import Findings.Dictionary

/-!
Contract: entries with keys, looked up in lists.

Owns:
- a list of entries after a key is given a value;
- look-ups in a list in which no key stands twice, where an entry is what its key
  finds.

Does not own: what the keys and the values stand for.
-/

namespace Findings

namespace Dictionary

variable {α : Type} {key : String} {value : α} {entries : List (String × α)}

theorem put_of_not_mem (fresh : key ∉ entries.map Prod.fst) :
    put key value entries = entries ++ [(key, value)] := by
  induction entries with
  | nil => rfl
  | cons entry more inductionHypothesis =>
    obtain ⟨first, held⟩ := entry
    rw [List.map_cons, List.mem_cons, not_or] at fresh
    rw [put, if_neg fun same => fresh.1 same.symm, inductionHypothesis fresh.2, List.cons_append]

/-- A key that is there already keeps its place. -/
theorem put_append_cons {before after : List (String × α)} {held : α}
    (fresh : key ∉ before.map Prod.fst) :
    put key value (before ++ (key, held) :: after) = before ++ (key, value) :: after := by
  induction before with
  | nil => simp [put]
  | cons entry more inductionHypothesis =>
    obtain ⟨first, other⟩ := entry
    rw [List.map_cons, List.mem_cons, not_or] at fresh
    rw [List.cons_append, put, if_neg fun same => fresh.1 same.symm, inductionHypothesis fresh.2,
      List.cons_append]

theorem put_append_self {held : α} (fresh : key ∉ entries.map Prod.fst) :
    put key value (entries ++ [(key, held)]) = entries ++ [(key, value)] :=
  put_append_cons fresh

/-- A key that is given the value it has changes nothing. -/
theorem put_lookup (found : entries.lookup key = some value) : put key value entries = entries := by
  induction entries with
  | nil => simp at found
  | cons entry more inductionHypothesis =>
    obtain ⟨first, held⟩ := entry
    by_cases same : first = key
    · subst same
      have : held = value := by simpa using found
      simp [put, this]
    · have apart : (key == first) = false := by simpa using fun h : key = first => same h.symm
      rw [List.lookup_cons, apart] at found
      rw [put, if_neg same, inductionHypothesis found]

theorem put_put {other : α} :
    put key other (put key value entries) = put key other entries := by
  induction entries with
  | nil => simp [put]
  | cons entry more inductionHypothesis =>
    obtain ⟨first, held⟩ := entry
    by_cases same : first = key <;> simp [put, same, inductionHypothesis]

theorem filter_ne_of_not_mem (fresh : key ∉ entries.map Prod.fst) :
    entries.filter (·.1 ≠ key) = entries := by
  rw [List.filter_eq_self]
  intro entry member
  simpa using fun same : entry.1 = key => fresh (same ▸ List.mem_map_of_mem member)

theorem lookup_eq_none_of_not_mem (fresh : key ∉ entries.map Prod.fst) :
    entries.lookup key = none := by
  rw [List.lookup_eq_none_iff]
  intro entry member
  simpa using fun same : key = entry.1 => fresh (same ▸ List.mem_map_of_mem member)

/-- Where no key comes twice, an entry is what its key is looked up for. -/
theorem lookup_of_mem
    (distinct : (entries.map Prod.fst).Nodup)
    (member : (key, value) ∈ entries) :
    entries.lookup key = some value := by
  obtain ⟨before, after, rfl⟩ := List.append_of_mem member
  rw [List.map_append, List.nodup_append] at distinct
  have fresh : key ∉ before.map Prod.fst :=
    fun earlier => distinct.2.2 key earlier key (by simp) rfl
  rw [List.lookup_append, lookup_eq_none_of_not_mem fresh, Option.none_or, List.lookup_cons_self]

theorem mem_of_lookup (found : entries.lookup key = some value) : (key, value) ∈ entries := by
  obtain ⟨before, after, rfl, -⟩ := List.lookup_eq_some_iff.mp found
  exact List.mem_append_right before List.mem_cons_self

theorem mem_iff_lookup (distinct : (entries.map Prod.fst).Nodup) :
    (key, value) ∈ entries ↔ entries.lookup key = some value :=
  ⟨lookup_of_mem distinct, mem_of_lookup⟩

theorem lookup_eq_none_iff_not_mem : entries.lookup key = none ↔ key ∉ entries.map Prod.fst := by
  constructor
  · intro nothing member
    obtain ⟨entry, inside, rfl⟩ := List.mem_map.mp member
    exact absurd (List.lookup_eq_none_iff.mp nothing entry inside) (by simp)
  · exact lookup_eq_none_of_not_mem

/-- Where no key comes twice, the order of the entries does not matter. -/
theorem lookup_perm {other : List (String × α)} (distinct : (entries.map Prod.fst).Nodup)
    (same : entries.Perm other) : entries.lookup key = other.lookup key := by
  have otherDistinct : (other.map Prod.fst).Nodup := (same.map Prod.fst).nodup_iff.mp distinct
  ext value
  rw [← mem_iff_lookup distinct, ← mem_iff_lookup otherDistinct, same.mem_iff]

/-- Only the entry of the key that is put is new. -/
theorem mem_put {entry : String × α} (member : entry ∈ put key value entries) :
    entry = (key, value) ∨ entry ∈ entries := by
  induction entries with
  | nil => exact .inl (List.mem_singleton.mp member)
  | cons first more inductionHypothesis =>
    obtain ⟨name, held⟩ := first
    rw [put] at member
    split at member
    case isTrue same =>
      subst same
      exact (List.mem_cons.mp member).imp_right (List.mem_cons_of_mem _)
    case isFalse =>
      rcases List.mem_cons.mp member with rfl | later
      · exact .inr List.mem_cons_self
      · exact (inductionHypothesis later).imp_right (List.mem_cons_of_mem _)

theorem lookup_filter_ne {name : String} (apart : name ≠ key) :
    (entries.filter (·.1 ≠ key)).lookup name = entries.lookup name := by
  induction entries with
  | nil => rfl
  | cons entry more inductionHypothesis =>
    obtain ⟨first, held⟩ := entry
    by_cases same : first = key
    · have other : (name == first) = false := by simpa [same] using apart
      rw [List.filter_cons_of_neg (by simpa using same), List.lookup_cons, other,
        inductionHypothesis]
    · rw [List.filter_cons_of_pos (by simpa using same), List.lookup_cons, List.lookup_cons,
        inductionHypothesis]

end Dictionary

end Findings
