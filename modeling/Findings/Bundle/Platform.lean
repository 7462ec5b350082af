import Findings.Dictionary
import Findings.Text.Blank

/-!
Contract: the analyzer program of each platform.

Owns:
- the key of a platform, the first word of the name of its system;
- `Analyzers`, the table from keys to paths inside a bundle, with the entries
  that every table starts from;
- `Analyzers.resolve`, which fails only for a key that has no entry.

Keys are compared as they are: a key that holds white space has an entry like
any other but is the key of no system.

Does not own: the bundle, which is not looked at.
-/

namespace Findings

/-- The key of a platform: the first word of the name of its system, or nothing
if there is none. -/
def platformKey (osName : String) : String :=
  String.ofList (Text.firstWord osName.toList)

/-- The name of the system that the program was built for, by the word that its
build has for it. -/
def currentOsName (target : String) : String :=
  match target with
  | "linux" => "Linux"
  | "macos" => "Mac OS X"
  | "windows" => "Windows"
  | other => other

/-- The path of the analyzer inside a bundle, for each platform key. -/
abbrev Analyzers := Dictionary String

structure UnsupportedPlatform where
  osName : String
  key : String
deriving DecidableEq, Repr

namespace Analyzers

/-- The analyzers that every bundle is expected to hold. -/
def standard : Analyzers :=
  .ofList [
    ("Linux", "analyzer/GoAnalyzerLinux"),
    ("Mac", "analyzer/GoAnalyzerMac"),
    ("Windows", "analyzer/GoAnalyzerWindows.exe")]

/-- The standard table with entries that extend or override it. -/
def withEntries (entries : List (String × String)) : Analyzers :=
  standard.insertAll entries

def resolve (analyzers : Analyzers) (osName : String) :
    Except UnsupportedPlatform String :=
  let key := platformKey osName
  match analyzers.get? key with
  | some path => .ok path
  | none => .error ⟨osName, key⟩

end Analyzers

end Findings
