import Findings.Bundle.Platform
import Findings.Settings.Basic

/-!
Contract: the settings that a pass runs with.

Owns:
- `Overrides`, what the command line can set;
- `Effective`, with a value for every setting that needs one;
- the order of precedence: command line, file, default.

A setting that is given counts, even if it is empty; only suffixes are cleaned,
and a list without any that is not blank counts as not given.
-/

namespace Findings

/-- What the command line sets. -/
structure Overrides where
  bundle : Option String
  osName : Option String
  timeoutSeconds : Option UInt64
  language : Option String
deriving DecidableEq, Repr

/-- The settings of a pass. -/
structure Effective where
  /-- Where the analyzers are; without it, beside the program. -/
  bundle : Option String
  osName : String
  /-- How many seconds an analyzer may take, if not any number. -/
  timeoutSeconds : Option UInt64
  language : String
  fileSuffixes : List String
  analyzers : Analyzers

namespace Effective

def defaultLanguage : String :=
  "go"

def defaultSuffixes : List String :=
  ["go"]

/-- Suffixes without the white space around them, less those that are blank. -/
def cleanSuffixes (suffixes : List String) : List String :=
  (suffixes.map fun suffix => String.ofList (Text.trim suffix.toList)).filter (· ≠ "")

def suffixesOf (given : Option (List String)) : List String :=
  match given.map cleanSuffixes with
  | none | some [] => defaultSuffixes
  | some suffixes => suffixes

/-- The settings of a pass, from a file and the command line, in a program that was
built for a target. -/
def ofSettings (target : String) (settings : Settings) (overrides : Overrides) : Effective where
  bundle := overrides.bundle.or settings.bundle
  osName := (overrides.osName.or settings.osName).getD (currentOsName target)
  timeoutSeconds := overrides.timeoutSeconds.or settings.timeoutSeconds
  language := (overrides.language.or settings.language).getD defaultLanguage
  fileSuffixes := suffixesOf settings.fileSuffixes
  analyzers := .withEntries settings.analyzers

end Effective

end Findings
