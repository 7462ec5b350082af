import Mathlib.Data.List.Forall2
import Findings.Proofs.Text.Blank
import Findings.Settings.Effective

/-!
Contract: where each setting in effect comes from.

Owns:
- `Prevails`, the order of precedence of one setting, which names no other one;
- `CleanedSuffixes`, the suffixes that are left of those in a file;
- `Analyzers.Answers`, what a table of analyzers says to the name of a system;
- `Effective.Governed`, the law of every setting in effect, and that it leaves no
  freedom: settings that agree in the sources of a value agree in the value.

Does not own: how a file is read.
-/

namespace Findings

/-! ## Precedence -/

/-- A value is that of the command line if one is given there, else that of the file if
one is given there, else the default. -/
inductive Prevails {α : Type} (commandLine file : Option α) (default value : α) : Prop
  | commandLine (given : commandLine = some value)
  | file (free : commandLine = none) (given : file = some value)
  | default (free : commandLine = none) (unset : file = none) (same : value = default)

section Prevails

variable {α : Type} {commandLine file : Option α} {default value other : α}

/-- The first choice that is there prevails over the default. -/
theorem prevails_getD : Prevails commandLine file default ((commandLine.or file).getD default) := by
  cases commandLine with
  | some value => exact .commandLine rfl
  | none =>
    cases file with
    | some value => exact .file rfl rfl
    | none => exact .default rfl rfl rfl

/-- A setting that may stay absent, which is its default. -/
theorem prevails_or :
    Prevails (commandLine.map some) (file.map some) none (commandLine.or file) := by
  cases commandLine with
  | some value => exact .commandLine rfl
  | none =>
    cases file with
    | some value => exact .file rfl rfl
    | none => exact .default rfl rfl rfl

/-- The same sources give the same value. -/
theorem Prevails.congr {commandLine' file' : Option α}
    (first : Prevails commandLine file default value)
    (second : Prevails commandLine' file' default other)
    (sameCommandLine : commandLine = commandLine') (sameFile : file = file') :
    value = other := by
  subst sameCommandLine sameFile
  cases first <;> cases second <;> simp_all

end Prevails

/-! ## Suffixes -/

/-- The suffixes of a list are its entries without the white space around them, less
the empty ones, in order; if none is left there is one suffix, `go`. -/
def CleanedSuffixes (given : Option (List String)) (suffixes : List String) : Prop :=
  ∃ cores : List String,
    List.Forall₂ (fun entry core => Text.Core entry.toList core.toList) (given.getD []) cores
    ∧ (cores.filter (· ≠ "") ≠ [] → suffixes = cores.filter (· ≠ ""))
    ∧ (cores.filter (· ≠ "") = [] → suffixes = ["go"])

namespace Effective

variable {given : Option (List String)} {entries suffixes : List String} {entry : String}

/-- An entry without the white space around it. -/
def coreOf (entry : String) : String :=
  String.ofList (Text.trim entry.toList)

theorem core_coreOf : Text.Core entry.toList (coreOf entry).toList := by
  rw [coreOf, String.toList_ofList]
  exact Text.core_trim _

theorem coreOf_eq_self (clean : Text.Core entry.toList entry.toList) : coreOf entry = entry := by
  rw [coreOf, ← clean.eq_trim, String.ofList_toList]

/-- Suffixes are trimmed one by one, and only then are the empty ones left out. -/
theorem cleanSuffixes_eq : cleanSuffixes entries = (entries.map coreOf).filter (· ≠ "") :=
  rfl

theorem mem_cleanSuffixes (member : entry ∈ cleanSuffixes entries) :
    entry ≠ "" ∧ Text.Core entry.toList entry.toList := by
  rw [cleanSuffixes_eq, List.mem_filter, List.mem_map] at member
  obtain ⟨⟨text, -, rfl⟩, full⟩ := member
  refine ⟨of_decide_eq_true full, ?_⟩
  rw [coreOf, String.toList_ofList, Text.core_iff, Text.trim_trim]

/-- Cleaning changes nothing where every entry is clean. -/
theorem cleanSuffixes_eq_self
    (clean : ∀ entry ∈ entries, entry ≠ "" ∧ Text.Core entry.toList entry.toList) :
    cleanSuffixes entries = entries := by
  have same : entries.map coreOf = entries :=
    (List.map_congr_left fun entry member => coreOf_eq_self (clean entry member).2).trans
      (List.map_id entries)
  rw [cleanSuffixes_eq, same, List.filter_eq_self]
  intro entry member
  exact decide_eq_true (clean entry member).1

theorem suffixesOf_eq :
    suffixesOf given
      = if cleanSuffixes (given.getD []) = [] then defaultSuffixes
        else cleanSuffixes (given.getD []) := by
  cases given with
  | none => rfl
  | some entries =>
    rw [suffixesOf, Option.map_some, Option.getD_some]
    cases cleanSuffixes entries <;> rfl

/-- The suffixes in effect are the cleaned ones, or the default if none is left. -/
theorem cleanedSuffixes_suffixesOf : CleanedSuffixes given (suffixesOf given) := by
  refine ⟨(given.getD []).map coreOf, ?_, ?_, ?_⟩
  · rw [List.forall₂_map_right_iff, List.forall₂_same]
    exact fun entry _ => core_coreOf
  · intro kept
    rw [suffixesOf_eq, cleanSuffixes_eq, if_neg kept]
  · intro none
    rw [suffixesOf_eq, cleanSuffixes_eq, if_pos none]
    rfl

theorem mem_suffixesOf (member : entry ∈ suffixesOf given) :
    entry ≠ "" ∧ Text.Core entry.toList entry.toList := by
  rw [suffixesOf_eq] at member
  split at member
  · rw [List.mem_singleton.mp member]
    exact ⟨by decide, Text.core_iff.mpr (by decide)⟩
  · exact mem_cleanSuffixes member

theorem suffixesOf_ne_nil : suffixesOf given ≠ [] := by
  rw [suffixesOf_eq]
  split
  · exact List.cons_ne_nil _ _
  · assumption

end Effective

/-! ## Analyzers -/

/-- The program of a platform where nothing is configured. -/
def standardProgram? : String → Option String
  | "Linux" => some "analyzer/GoAnalyzerLinux"
  | "Mac" => some "analyzer/GoAnalyzerMac"
  | "Windows" => some "analyzer/GoAnalyzerWindows.exe"
  | _ => none

/-- The program that settings give for a platform; of several the last one counts. -/
def Settings.program? (settings : Settings) (key : String) : Option String :=
  settings.analyzers.reverse.lookup key

namespace Analyzers

variable {settings : Settings} {osName other key program : String}

/-- What is answered for the name of a system that begins with a word: the program of
the settings for this word, else the standard one, else the name and the word. -/
def Answers (settings : Settings) (osName word : String) :
    Except UnsupportedPlatform String → Prop
  | .ok program => (settings.program? word).or (standardProgram? word) = some program
  | .error platform =>
    (settings.program? word).or (standardProgram? word) = none ∧ platform = ⟨osName, word⟩

theorem get?_standard : standard.get? key = standardProgram? key := by
  rw [standard, Dictionary.ofList, Dictionary.get?_insertAll, Dictionary.get?_empty,
    Option.or_none]
  unfold standardProgram?
  split
  case h_4 notLinux notMac notWindows =>
    simp [List.lookup_cons, beq_false_of_ne notLinux, beq_false_of_ne notMac,
      beq_false_of_ne notWindows]
  all_goals rfl

/-- A configured program takes the place of the standard one of its platform. -/
theorem get?_withEntries :
    (withEntries settings.analyzers).get? key
      = (settings.program? key).or (standardProgram? key) := by
  rw [withEntries, Dictionary.get?_insertAll, get?_standard]
  rfl

theorem beginsWith_platformKey : Text.BeginsWith osName.toList (platformKey osName).toList := by
  rw [platformKey, String.toList_ofList]
  exact Text.beginsWith_firstWord _

theorem eq_platformKey (begins : Text.BeginsWith osName.toList key.toList) :
    key = platformKey osName := by
  rw [platformKey, ← begins.eq_firstWord, String.ofList_toList]

/-- What is answered for the name of a system depends only on its first word. -/
theorem answers_resolve (begins : Text.BeginsWith osName.toList key.toList) :
    Answers settings osName key ((withEntries settings.analyzers).resolve osName) := by
  rw [resolve, ← eq_platformKey begins, get?_withEntries]
  cases found : (settings.program? key).or (standardProgram? key) with
  | none => exact ⟨found, rfl⟩
  | some program => exact found

end Analyzers

/-! ## Settings in effect -/

namespace Effective

/-- Every setting in effect, each by its own sources.  The default for the name of the
system is the one that the program was built for. -/
structure Governed
    (target : String)
    (settings : Settings)
    (overrides : Overrides)
    (effective : Effective) :
    Prop where
  bundle :
    Prevails (overrides.bundle.map some) (settings.bundle.map some) none effective.bundle
  osName : Prevails overrides.osName settings.osName (currentOsName target)
    effective.osName
  timeoutSeconds :
    Prevails (overrides.timeoutSeconds.map some) (settings.timeoutSeconds.map some) none
      effective.timeoutSeconds
  language : Prevails overrides.language settings.language "go" effective.language
  fileSuffixes : CleanedSuffixes settings.fileSuffixes effective.fileSuffixes
  analyzers : ∀ osName word : String, Text.BeginsWith osName.toList word.toList →
    Analyzers.Answers settings osName word (effective.analyzers.resolve osName)

/-- Of two choices of sources, each setting in effect is the same if its own sources
are, whatever becomes of the others. -/
structure KeptApart
    (settings settings' : Settings)
    (overrides overrides' : Overrides)
    (effective effective' : Effective) :
    Prop where
  bundle : overrides.bundle = overrides'.bundle → settings.bundle = settings'.bundle →
    effective.bundle = effective'.bundle
  osName : overrides.osName = overrides'.osName → settings.osName = settings'.osName →
    effective.osName = effective'.osName
  timeoutSeconds : overrides.timeoutSeconds = overrides'.timeoutSeconds →
    settings.timeoutSeconds = settings'.timeoutSeconds →
      effective.timeoutSeconds = effective'.timeoutSeconds
  language : overrides.language = overrides'.language →
    settings.language = settings'.language → effective.language = effective'.language
  fileSuffixes : settings.fileSuffixes = settings'.fileSuffixes →
    effective.fileSuffixes = effective'.fileSuffixes
  analyzers : settings.analyzers = settings'.analyzers →
    effective.analyzers = effective'.analyzers

variable {target : String} {settings settings' : Settings} {overrides overrides' : Overrides}

/-- Every setting in effect has its own sources, and the value of the one that prevails.
-/
theorem governed_ofSettings :
    (ofSettings target settings overrides).Governed target settings overrides where
  bundle := prevails_or
  osName := prevails_getD
  timeoutSeconds := prevails_or
  language := prevails_getD
  fileSuffixes := cleanedSuffixes_suffixesOf
  analyzers := fun _ _ => Analyzers.answers_resolve

/-- A setting in effect does not see the sources of another one. -/
theorem keptApart_ofSettings :
    KeptApart settings settings' overrides overrides' (ofSettings target settings overrides)
      (ofSettings target settings' overrides') where
  bundle := fun commandLine file => governed_ofSettings.bundle.congr
    governed_ofSettings.bundle (congrArg _ commandLine) (congrArg _ file)
  osName := governed_ofSettings.osName.congr governed_ofSettings.osName
  timeoutSeconds := fun commandLine file => governed_ofSettings.timeoutSeconds.congr
    governed_ofSettings.timeoutSeconds (congrArg _ commandLine) (congrArg _ file)
  language := governed_ofSettings.language.congr governed_ofSettings.language
  fileSuffixes := fun given => congrArg suffixesOf given
  analyzers := fun given => congrArg Analyzers.withEntries given

end Effective

/-- The settings in effect.  Each one is that of the command line, else that of the file,
else the default, and depends on nothing else; the suffixes are those of the file without
white space around them and without blank ones, else `go`; and the analyzer for a system
is that of the first word of its name, in the file or else in the standard table.  So
there is always a suffix and never an unclean one, cleaning the suffixes again changes
nothing, and of the name of a system only its first word counts. -/
theorem effective_settings (target : String) (settings : Settings) (overrides : Overrides) :
    let effective := Effective.ofSettings target settings overrides
    effective.Governed target settings overrides
    ∧ (∀ settings' overrides',
        Effective.KeptApart settings settings' overrides overrides' effective
          (.ofSettings target settings' overrides'))
    ∧ (effective.fileSuffixes ≠ []
      ∧ (∀ suffix ∈ effective.fileSuffixes,
        suffix ≠ "" ∧ Text.Core suffix.toList suffix.toList)
      ∧ Effective.cleanSuffixes effective.fileSuffixes = effective.fileSuffixes)
    ∧ (∀ osName : String, ∃ word : String, Text.BeginsWith osName.toList word.toList)
    ∧ ∀ osName other word : String,
        Text.BeginsWith osName.toList word.toList → Text.BeginsWith other.toList word.toList →
          (effective.analyzers.resolve osName).mapError UnsupportedPlatform.key
            = (effective.analyzers.resolve other).mapError UnsupportedPlatform.key := by
  intro effective
  refine ⟨Effective.governed_ofSettings, fun _ _ => Effective.keptApart_ofSettings, ?suffixes,
    fun osName => ⟨_, Analyzers.beginsWith_platformKey⟩, ?words⟩
  case suffixes =>
    refine ⟨Effective.suffixesOf_ne_nil, fun _ => Effective.mem_suffixesOf, ?_⟩
    exact Effective.cleanSuffixes_eq_self fun _ => Effective.mem_suffixesOf
  case words =>
    intro osName other word begins otherBegins
    have same : platformKey osName = platformKey other :=
      (Analyzers.eq_platformKey begins).symm.trans (Analyzers.eq_platformKey otherBegins)
    rw [Analyzers.resolve, Analyzers.resolve, same]
    cases effective.analyzers.get? (platformKey other) <;> rfl

/-- A padded name, a key of several words, which is the key of no system, and suffixes
of which one is blank and one comes twice. -/
theorem effective_settings_paddedName :
    let settings : Settings :=
      ⟨some "b", some "Linux", some 10, none, some [" go ", "\u2003", "gox", "go"],
        [("Mac", "bin/mac"), ("Mac OS X", "bin/never")]⟩
    let overrides : Overrides := ⟨none, some "\u2003Mac OS X", none, none⟩
    let effective := Effective.ofSettings "linux" settings overrides
    let changed := Effective.ofSettings "linux" { settings with language := some "c" }
      { overrides with bundle := some "c" }
    Text.BeginsWith effective.osName.toList "Mac".toList
    ∧ Analyzers.Answers settings effective.osName "Mac" (.ok "bin/mac")
    ∧ (effective.analyzers.resolve effective.osName).mapError UnsupportedPlatform.key
      = (effective.analyzers.resolve "Mac 15").mapError UnsupportedPlatform.key
    ∧ effective.fileSuffixes = ["go", "gox", "go"]
    ∧ Effective.cleanSuffixes effective.fileSuffixes = effective.fileSuffixes
    ∧ effective.osName = changed.osName := by
  intro settings overrides effective changed
  have begins : Text.BeginsWith effective.osName.toList "Mac".toList :=
    Text.beginsWith_iff.mpr (by decide)
  have otherBegins : Text.BeginsWith "Mac 15".toList "Mac".toList :=
    Text.beginsWith_iff.mpr (by decide)
  have resolved : effective.analyzers.resolve effective.osName = .ok "bin/mac" := by
    decide +kernel
  obtain ⟨governed, keptApart, ⟨-, -, cleaned⟩, -, words⟩ :=
    effective_settings "linux" settings overrides
  have answered := governed.analyzers _ _ begins
  rw [resolved] at answered
  exact ⟨begins, answered, words _ _ _ begins otherBegins, by decide +kernel, cleaned,
    (keptApart _ _).osName rfl rfl⟩

end Findings
