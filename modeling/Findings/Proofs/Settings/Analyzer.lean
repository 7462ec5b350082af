import Mathlib
import Findings.Proofs.Settings.Decoding
import Findings.Proofs.Settings.Effective

/-!
Contract: which of the configured analyzers are ever chosen.

Owns:
- an analyzer that is configured under a word is the one for every system whose name
  begins with this word, whatever the standard one and the command line are;
- an analyzer that is configured under a key with white space in it is the one for no
  system, as such a key is never the first word of a name.

Does not own: how the file is read, and what a system without analyzer means.
-/

namespace Findings

open Toml (Value)

variable {key osName program text path : String} {settings : Settings}
  {table entries : List (String × Value)}

namespace Analyzers

/-- A configured program is found under every name that begins with its key. -/
theorem resolve_of_mem (distinct : (settings.analyzers.map Prod.fst).Nodup)
    (member : (key, program) ∈ settings.analyzers)
    (begins : Text.BeginsWith osName.toList key.toList) :
    (withEntries settings.analyzers).resolve osName = .ok program := by
  have found : settings.program? key = some program := by
    rw [Settings.program?,
      ← Dictionary.lookup_perm distinct (List.reverse_perm settings.analyzers).symm]
    exact Dictionary.lookup_of_mem distinct member
  rw [resolve, ← eq_platformKey begins, get?_withEntries, found, Option.some_or]

/-- Only the entries of the first word of a name matter. -/
theorem resolve_filter_ne (apart : ¬Text.BeginsWith osName.toList key.toList) :
    (withEntries (settings.analyzers.filter (·.1 ≠ key))).resolve osName
      = (withEntries settings.analyzers).resolve osName := by
  have other : platformKey osName ≠ key := by
    rintro rfl
    exact apart beginsWith_platformKey
  have same : (withEntries (settings.analyzers.filter (·.1 ≠ key))).get? (platformKey osName)
      = (withEntries settings.analyzers).get? (platformKey osName) := by
    rw [withEntries, withEntries, Dictionary.get?_insertAll, Dictionary.get?_insertAll,
      ← List.filter_reverse, Dictionary.lookup_filter_ne other]
  rw [resolve, resolve, same]

end Analyzers

namespace Settings

/-- The analyzers of a text are those of its table, and no two have the same key. -/
theorem analyzers_of_ofText (decoded : ofText text path = .ok settings)
    (read : Toml.parse text = some table) (given : ("analyzers", .table entries) ∈ table) :
    entries = textTable settings.analyzers ∧ (settings.analyzers.map Prod.fst).Nodup := by
  obtain ⟨fits, rfl⟩ := (ofText_eq_ok_iff_fits read).mp decoded
  have written := (saidBy_overlaid (nodup_keys_of_parse read) fits).analyzers entries given
  refine ⟨written, ?_⟩
  cases Toml.distinct_of_parse read with
  | table keys all =>
    cases all _ given with
    | table innerKeys _ => rwa [written, keys_textTable] at innerKeys

def without (settings : Settings) (key : String) : Settings :=
  { settings with analyzers := settings.analyzers.filter (·.1 ≠ key) }

end Settings

/-- The analyzers that a file configures, whatever the command line says.  One under a
key without white space is found by every name of a system that begins with this word,
so by the key itself.  A key with white space in it begins no name, and its analyzer
changes no answer. -/
theorem configured_analyzer (target text path key program : String)
    (table entries : List (String × Value)) (settings : Settings) (overrides : Overrides)
    (read : Toml.parse text = some table) (given : ("analyzers", .table entries) ∈ table)
    (configured : (key, .string program) ∈ entries)
    (decoded : Settings.ofText text path = .ok settings) :
    let resolve := (Effective.ofSettings target settings overrides).analyzers.resolve
    (Text.Solid key.toList → resolve key = .ok program)
    ∧ (∀ osName, Text.BeginsWith osName.toList key.toList → resolve osName = .ok program)
    ∧ (¬Text.Solid key.toList → ∀ osName, ¬Text.BeginsWith osName.toList key.toList
      ∧ (Effective.ofSettings target (settings.without key) overrides).analyzers.resolve osName
        = resolve osName) := by
  intro resolve
  obtain ⟨rfl, distinct⟩ := Settings.analyzers_of_ofText decoded read given
  have member : (key, program) ∈ settings.analyzers := by
    obtain ⟨entry, inside, same⟩ := List.mem_map.mp configured
    cases same
    exact inside
  have found (osName : String) (begins : Text.BeginsWith osName.toList key.toList) :
      resolve osName = .ok program :=
    Analyzers.resolve_of_mem distinct member begins
  refine ⟨fun solid => found key (Text.beginsWith_self_iff.mpr solid), found, ?_⟩
  intro blank osName
  have apart : ¬Text.BeginsWith osName.toList key.toList := fun begins => blank begins.solid
  exact ⟨apart, Analyzers.resolve_filter_ne apart⟩

/-- A word that overrides the standard analyzer, beside a key of several words that
overrides nothing. -/
theorem configured_analyzer_mac :
    let text := "[analyzers]\n'Mac OS X' = 'bin/own'\nMac = 'bin/mac'"
    let settings : Settings :=
      ⟨none, none, none, none, none, [("Mac OS X", "bin/own"), ("Mac", "bin/mac")]⟩
    let overrides : Overrides := ⟨none, some "Linux", none, none⟩
    let resolve := (Effective.ofSettings "linux" settings overrides).analyzers.resolve
    Settings.ofText text "p" = .ok settings
    ∧ resolve "Mac" = .ok "bin/mac"
    ∧ resolve "Mac OS X" = .ok "bin/mac"
    ∧ (Effective.ofSettings "linux" (settings.without "Mac OS X") overrides).analyzers.resolve
        "Mac OS X"
      = resolve "Mac OS X" := by
  intro text settings overrides resolve
  let entries : List (String × Value) :=
    [("Mac OS X", .string "bin/own"), ("Mac", .string "bin/mac")]
  have read : Toml.parse text = some [("analyzers", .table entries)] := by cbv
  have decoded : Settings.ofText text "p" = .ok settings := by decide +kernel
  have given : ("analyzers", Value.table entries) ∈ [("analyzers", Value.table entries)] :=
    List.mem_singleton.mpr rfl
  obtain ⟨byKey, byWord, -⟩ := configured_analyzer "linux" text "p" "Mac" "bin/mac" _ entries
    settings overrides read given (by simp [entries]) decoded
  obtain ⟨-, -, never⟩ := configured_analyzer "linux" text "p" "Mac OS X" "bin/own" _ entries
    settings overrides read given (by simp [entries]) decoded
  exact ⟨decoded, byKey (by decide), byWord "Mac OS X" (Text.beginsWith_iff.mpr (by decide)),
    (never (by decide) "Mac OS X").2⟩

/-- A key of several words is not found by the name that is the key. -/
theorem not_configured_macOsX :
    let text := "[analyzers]\n'Mac OS X' = 'bin/own'"
    let settings : Settings := ⟨none, none, none, none, none, [("Mac OS X", "bin/own")]⟩
    let overrides : Overrides := ⟨none, some "Mac OS X", none, none⟩
    let resolve := (Effective.ofSettings "linux" settings overrides).analyzers.resolve
    Settings.ofText text "p" = .ok settings
    ∧ ("Mac OS X", "bin/own") ∈ settings.analyzers
    ∧ resolve "Mac OS X" ≠ .ok "bin/own"
    ∧ resolve "Mac OS X" = .ok "analyzer/GoAnalyzerMac" := by
  decide +kernel

end Findings
