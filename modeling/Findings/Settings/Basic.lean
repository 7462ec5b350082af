import Findings.Toml.Document

/-!
Contract: the settings that a project can write down.

Owns:
- `Settings`, each of them optional;
- `Settings.ofTable?`, which takes a table of typed values apart: every key
  must be known and every value of the right type;
- `Settings.parse?`, the same from a text.

An empty text is a setting like any other.  Does not own: where settings come
from and what stands in for missing ones.
-/

namespace Findings

structure Settings where
  /-- Where the analyzers are. -/
  bundle : Option String
  osName : Option String
  timeoutSeconds : Option UInt64
  language : Option String
  fileSuffixes : Option (List String)
  /-- Analyzers by platform key, beside the standard ones. -/
  analyzers : List (String × String)
deriving DecidableEq, Repr

namespace Settings

def unset : Settings :=
  ⟨none, none, none, none, none, []⟩

def text? : Toml.Value → Option String
  | .string value => some value
  | _ => none

/-- A number of seconds, from 0 to the greatest 64 bit number. -/
def seconds? : Toml.Value → Option UInt64
  | .integer value =>
    if 0 ≤ value ∧ value < UInt64.size then some (UInt64.ofNat value.toNat) else none
  | _ => none

def texts? : Toml.Value → Option (List String)
  | .array elements => elements.mapM text?
  | _ => none

def namedTexts? : Toml.Value → Option (List (String × String))
  | .table entries => entries.mapM fun (name, value) => return (name, ← text? value)
  | _ => none

/-- Adds what a key of the table sets. -/
def set? (settings : Settings) : String × Toml.Value → Option Settings
  | ("bundle", value) => return { settings with bundle := some (← text? value) }
  | ("os_name", value) => return { settings with osName := some (← text? value) }
  | ("timeout_secs", value) =>
    return { settings with timeoutSeconds := some (← seconds? value) }
  | ("language", value) => return { settings with language := some (← text? value) }
  | ("file_suffixes", value) => return { settings with fileSuffixes := some (← texts? value) }
  | ("analyzers", value) => return { settings with analyzers := ← namedTexts? value }
  | _ => none

def ofTable? (table : List (String × Toml.Value)) : Option Settings :=
  table.foldlM set? unset

def parse? (text : String) : Option Settings := do
  ofTable? (← Toml.parse text)

end Settings

end Findings
