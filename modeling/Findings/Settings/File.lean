import Findings.Files.World
import Findings.Settings.Basic

/-!
Contract: the file that holds the settings of a project.

Owns:
- its name, and where it is looked for;
- the two ways to fail: the file cannot be read, or it does not describe
  settings.

A project without such a file has no settings; what is not a regular file does
not count as one.
-/

namespace Findings

/-- Why settings cannot be had. -/
inductive SettingsError where
  | unreadable (path : String) (fault : IoFault)
  | invalid (path : String)
deriving DecidableEq, Repr

def SettingsError.message : SettingsError → String
  | unreadable path fault => "Failed to read config file '" ++ path ++ "': " ++ fault.message
  | invalid path => "Invalid config file '" ++ path ++ "'"

namespace Settings

def fileName : String :=
  "goanalyzer.toml"

def ofText (text path : String) : Except SettingsError Settings :=
  match parse? text with
  | some settings => .ok settings
  | none => .error (.invalid path)

def load (world : World) (path : String) : Except SettingsError Settings :=
  match world.readText path with
  | .ok text => ofText text path
  | .error fault => .error (.unreadable path fault)

/-- The settings of a project, from the file in its folder if there is one. -/
def discover (world : World) (folder : String) : Except SettingsError Settings :=
  let path := joinPath folder fileName
  if world.isFile path then load world path else .ok unset

end Settings

end Findings
