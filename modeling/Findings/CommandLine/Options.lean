/-!
Contract: the arguments of the program.

Owns:
- `Options`, with the folder to analyze and what was said about the pass;
- `Request`, a pass or one of the two texts that the program tells about
  itself;
- `Request.ofArguments`, which reads arguments from left to right: an option
  is given at most once, its value follows it or is attached with `=`, and
  after `--` nothing is an option.

The first request for a text counts, unless a fault comes before it.
-/

namespace Findings.CommandLine

/-! ## Options -/

inductive Format where
  | text
  | json
deriving DecidableEq, Repr

structure Options where
  /-- The folder to analyze. -/
  folder : String
  config : Option String
  bundle : Option String
  osName : Option String
  timeoutSeconds : Option UInt64
  language : Option String
  absolutePaths : Bool
  format : Format
deriving DecidableEq, Repr

inductive Request where
  | pass (options : Options)
  | version
  | help
deriving DecidableEq, Repr

/-- Why arguments cannot be followed. -/
inductive UsageError where
  | unknownOption (argument : String)
  | unexpectedArgument (argument : String)
  | unexpectedValue (name : String)
  | missingValue (name : String)
  | invalidValue (name value : String)
  | repeated (name : String)
  | missingFolder
deriving DecidableEq, Repr

def UsageError.message : UsageError → String
  | unknownOption argument => "unexpected argument '" ++ argument ++ "' found"
  | unexpectedArgument argument => "unexpected argument '" ++ argument ++ "' found"
  | unexpectedValue name => "unexpected value for '--" ++ name ++ "' found; no more were expected"
  | missingValue name => "a value is required for '--" ++ name ++ "' but none was supplied"
  | invalidValue name value => "invalid value '" ++ value ++ "' for '" ++ name ++ "'"
  | repeated name => "the argument '--" ++ name ++ "' cannot be used multiple times"
  | missingFolder => "the following required arguments were not provided: <DIR>"

/-- The options that take a value. -/
inductive Setting where
  | config
  | bundle
  | osName
  | timeout
  | language
  | format
deriving DecidableEq, Repr

def Setting.name : Setting → String
  | config => "config"
  | bundle => "bundle"
  | osName => "os-name"
  | timeout => "timeout"
  | language => "language"
  | format => "format"

def Setting.all : List Setting :=
  [config, bundle, osName, timeout, language, format]

def Setting.ofName? (name : String) : Option Setting :=
  all.find? fun setting => setting.name = name

/-! ## Values -/

/-- A path must not be empty. -/
def path? (value : String) : Option String :=
  if value = "" then none else some value

/-- A number of seconds: decimal digits, with a plus sign if wanted, up to the
greatest 64 bit number. -/
def seconds? (value : String) : Option UInt64 :=
  let digits := match value.toList with
    | '+' :: rest => rest
    | chars => chars
  if digits.isEmpty || !digits.all Char.isDigit then
    none
  else
    let number := digits.foldl (fun sum c => sum * 10 + (c.toNat - '0'.toNat)) 0
    if number < UInt64.size then some (UInt64.ofNat number) else none

def format? : String → Option Format
  | "text" => some .text
  | "json" => some .json
  | _ => none

/-! ## Arguments -/

/-- What the arguments so far have said. -/
structure Draft where
  folder : Option String
  config : Option String
  bundle : Option String
  osName : Option String
  timeoutSeconds : Option UInt64
  language : Option String
  absolutePaths : Bool
  format : Option Format
deriving DecidableEq, Repr

namespace Draft

def empty : Draft :=
  ⟨none, none, none, none, none, none, false, none⟩

/-- The value of an option that was not given before. -/
def once {α : Type}
    (setting : Setting)
    (before : Option α)
    (value : String)
    (read : String → Option α) :
    Except UsageError (Option α) :=
  if before.isSome then
    .error (.repeated setting.name)
  else
    match read value with
    | some value => .ok (some value)
    | none => .error (.invalidValue setting.name value)

def set (draft : Draft) (setting : Setting) (value : String) : Except UsageError Draft :=
  match setting with
  | .config => return { draft with config := ← once setting draft.config value path? }
  | .bundle => return { draft with bundle := ← once setting draft.bundle value path? }
  | .osName => return { draft with osName := ← once setting draft.osName value some }
  | .timeout =>
    return { draft with timeoutSeconds := ← once setting draft.timeoutSeconds value seconds? }
  | .language => return { draft with language := ← once setting draft.language value some }
  | .format => return { draft with format := ← once setting draft.format value format? }

def setFolder (draft : Draft) (value : String) : Except UsageError Draft :=
  if draft.folder.isSome then
    .error (.unexpectedArgument value)
  else
    match path? value with
    | some folder => .ok { draft with folder := some folder }
    | none => .error (.invalidValue "DIR" value)

/-- The arguments as a whole. -/
def finish (draft : Draft) : Except UsageError Request :=
  match draft.folder with
  | none => .error .missingFolder
  | some folder =>
    .ok (.pass {
      folder := folder
      config := draft.config
      bundle := draft.bundle
      osName := draft.osName
      timeoutSeconds := draft.timeoutSeconds
      language := draft.language
      absolutePaths := draft.absolutePaths
      format := draft.format.getD .text })

end Draft

/-- What an argument is by its looks. -/
inductive Argument where
  | plain (value : String)
  /-- Letters behind a hyphen. -/
  | short (letter : Char)
  /-- A name behind two hyphens, with a value if one is attached. -/
  | long (name : String) (value : Option String)
  /-- Two hyphens alone: no more options. -/
  | separator
deriving DecidableEq, Repr

def Argument.ofText (argument : String) : Argument :=
  match argument.toList with
  | ['-', '-'] => .separator
  | '-' :: '-' :: rest =>
    let name := String.ofList (rest.takeWhile (· ≠ '='))
    match rest.dropWhile (· ≠ '=') with
    | [] => .long name none
    | _ :: value => .long name (some (String.ofList value))
  | '-' :: letter :: _ => .short letter
  | _ => .plain argument

/-- Reads arguments among which there are no options. -/
def readPlain (draft : Draft) (arguments : List String) : Except UsageError Request := do
  (← arguments.foldlM Draft.setFolder draft).finish

/-- Reads arguments from left to right. -/
def readArguments (draft : Draft) : List String → Except UsageError Request
  | [] => draft.finish
  | argument :: rest =>
    match Argument.ofText argument with
    | .separator => readPlain draft rest
    | .plain value =>
      match draft.setFolder value with
      | .ok draft => readArguments draft rest
      | .error error => .error error
    | .short 'V' => .ok .version
    | .short 'h' => .ok .help
    | .short _ => .error (.unknownOption argument)
    | .long "version" none => .ok .version
    | .long "help" none => .ok .help
    | .long "absolute-paths" none =>
      if draft.absolutePaths then
        .error (.repeated "absolute-paths")
      else
        readArguments { draft with absolutePaths := true } rest
    | .long name (some value) =>
      match Setting.ofName? name with
      | some setting =>
        match draft.set setting value with
        | .ok draft => readArguments draft rest
        | .error error => .error error
      | none =>
        if name ∈ ["version", "help", "absolute-paths"] then .error (.unexpectedValue name)
        else .error (.unknownOption argument)
    | .long name none =>
      match Setting.ofName? name with
      | some setting =>
        match rest with
        | [] => .error (.missingValue name)
        | next :: rest =>
          match Argument.ofText next with
          | .plain value =>
            match draft.set setting value with
            | .ok draft => readArguments draft rest
            | .error error => .error error
          | _ => .error (.missingValue name)
      | none => .error (.unknownOption argument)

def Request.ofArguments (arguments : List String) : Except UsageError Request :=
  readArguments .empty arguments

end Findings.CommandLine
