import Mathlib.Data.List.Perm.Basic
import Findings.Proofs.Elements
import Findings.Proofs.Toml.Distinct
import Findings.Settings.File

/-!
Contract: which tables describe settings, and what they say.

Owns:
- `Settings.Fits`, the schema: what may stand under each key;
- `Settings.SaidBy`, settings whose values are those of a table;
- the law that a table of distinct keys describes settings exactly if all of its
  entries fit, and that the settings then depend on its look-ups alone.

Does not own: how a text becomes a table.
-/

namespace Findings

namespace Settings

open Toml (Value)

variable {name key text program : String} {value : Value} {seconds : UInt64}
  {texts : List String} {programs : List (String × String)} {settings start : Settings}
  {table more other : List (String × Value)}

/-! ## Values of one type -/

def textTable (programs : List (String × String)) : List (String × Value) :=
  programs.map fun entry => (entry.1, .string entry.2)

theorem keys_textTable : (textTable programs).map Prod.fst = programs.map Prod.fst := by
  rw [textTable, List.map_map]
  rfl

/-- Only a string is read as a text. -/
theorem text?_eq_some_iff : text? value = some text ↔ value = .string text := by
  cases value <;> simp [text?]

/-- Only an integer that 64 bits hold without a sign is read as a number of seconds. -/
theorem seconds?_eq_some_iff :
    seconds? value = some seconds ↔ value = .integer seconds.toNat := by
  cases value with
  | integer number =>
    rw [seconds?, Option.ite_none_right_eq_some, Option.some.injEq, Value.integer.injEq]
    constructor
    · rintro ⟨⟨least, greatest⟩, rfl⟩
      have small : number.toNat < UInt64.size := by omega
      rw [UInt64.toNat_ofNat_of_lt' small, Int.toNat_of_nonneg least]
    · rintro rfl
      exact ⟨⟨Int.natCast_nonneg _, Int.ofNat_lt.mpr seconds.toNat_lt⟩, UInt64.ofNat_toNat⟩
  | _ => simp [seconds?]

theorem seconds?_toNat : seconds? (.integer seconds.toNat) = some seconds :=
  seconds?_eq_some_iff.mpr rfl

/-- Only an array of strings is read as a list of texts. -/
theorem texts?_eq_some_iff : texts? value = some texts ↔ value = .array (texts.map .string) := by
  cases value with
  | array elements =>
    rw [texts?, mapM_eq_some_iff_eq_map fun _ _ => text?_eq_some_iff, Value.array.injEq]
  | _ => simp [texts?]

theorem texts?_map : texts? (.array (texts.map .string)) = some texts :=
  texts?_eq_some_iff.mpr rfl

/-- Only a table of strings is read as a table of programs. -/
theorem namedTexts?_eq_some_iff :
    namedTexts? value = some programs ↔ value = .table (textTable programs) := by
  cases value with
  | table entries =>
    have entry? (entry : String × Value) (program : String × String) :
        (do return (entry.1, ← text? entry.2)) = some program
          ↔ entry = (program.1, .string program.2) := by
      simp only [Option.bind_eq_bind, Option.bind_eq_some_iff, Option.pure_def,
        Option.some.injEq, Prod.ext_iff, text?_eq_some_iff]
      constructor
      · rintro ⟨text, isText, sameKey, rfl⟩
        exact ⟨sameKey, isText⟩
      · rintro ⟨sameKey, isText⟩
        exact ⟨program.2, isText, sameKey, rfl⟩
    rw [namedTexts?, mapM_eq_some_iff_eq_map entry?, Value.table.injEq, textTable]
  | _ => simp [namedTexts?]

theorem namedTexts?_textTable : namedTexts? (.table (textTable programs)) = some programs :=
  namedTexts?_eq_some_iff.mpr rfl

/-! ## The schema -/

/-- What may stand under a key of the settings. -/
inductive Fits : String → Value → Prop
  | bundle {text : String} : Fits "bundle" (.string text)
  | osName {text : String} : Fits "os_name" (.string text)
  | timeoutSeconds {number : Int} (least : 0 ≤ number) (greatest : number < UInt64.size) :
      Fits "timeout_secs" (.integer number)
  | language {text : String} : Fits "language" (.string text)
  | fileSuffixes {elements : List Value}
      (strings : ∀ element ∈ elements, ∃ text, element = .string text) :
      Fits "file_suffixes" (.array elements)
  | analyzers {entries : List (String × Value)}
      (strings : ∀ entry ∈ entries, ∃ text, entry.2 = .string text) :
      Fits "analyzers" (.table entries)

/-- Settings whose values are those of a table, and which are absent where the table has
none. -/
structure SaidBy (table : List (String × Value)) (settings : Settings) : Prop where
  bundle : ∀ text, settings.bundle = some text ↔ ("bundle", .string text) ∈ table
  osName : ∀ text, settings.osName = some text ↔ ("os_name", .string text) ∈ table
  timeoutSeconds : ∀ seconds, settings.timeoutSeconds = some seconds
    ↔ ("timeout_secs", .integer seconds.toNat) ∈ table
  language : ∀ text, settings.language = some text ↔ ("language", .string text) ∈ table
  fileSuffixes : ∀ texts, settings.fileSuffixes = some texts
    ↔ ("file_suffixes", .array (texts.map .string)) ∈ table
  analyzers : ∀ entries, ("analyzers", .table entries) ∈ table →
    entries = textTable settings.analyzers
  noAnalyzers : (∀ value, ("analyzers", value) ∉ table) → settings.analyzers = []

/-- Settings where each key that a table has is taken from it. -/
def overlaid (start : Settings) (table : List (String × Value)) : Settings where
  bundle := (table.lookup "bundle").elim start.bundle text?
  osName := (table.lookup "os_name").elim start.osName text?
  timeoutSeconds := (table.lookup "timeout_secs").elim start.timeoutSeconds seconds?
  language := (table.lookup "language").elim start.language text?
  fileSuffixes := (table.lookup "file_suffixes").elim start.fileSuffixes texts?
  analyzers := (table.lookup "analyzers").elim start.analyzers fun value =>
    (namedTexts? value).getD []

theorem exists_texts {elements : List Value}
    (strings : ∀ element ∈ elements, ∃ text, element = .string text) :
    ∃ texts : List String, elements = texts.map .string := by
  have each : ∀ element ∈ elements, ∃ text, element = .string text ∧ True :=
    fun element member => (strings element member).imp fun _ same => ⟨same, trivial⟩
  obtain ⟨texts, written, -⟩ := exists_map_of_forall each
  exact ⟨texts, written⟩

theorem exists_textTable {entries : List (String × Value)}
    (strings : ∀ entry ∈ entries, ∃ text, entry.2 = .string text) :
    ∃ programs, entries = textTable programs := by
  have each : ∀ entry ∈ entries, ∃ program : String × String,
      entry = (program.1, .string program.2) ∧ True := by
    intro entry member
    obtain ⟨text, same⟩ := strings entry member
    exact ⟨(entry.1, text), Prod.ext rfl same, trivial⟩
  obtain ⟨programs, written, -⟩ := exists_map_of_forall each
  exact ⟨programs, written⟩

theorem Fits.exists_textTable {entries : List (String × Value)}
    (fits : Fits key (.table entries)) : ∃ programs, entries = textTable programs := by
  cases fits with
  | analyzers strings => exact Settings.exists_textTable strings

/-- The order of the entries of a table does not matter to whether it fits. -/
theorem Fits.perm {entries members : List (String × Value)} (perm : entries.Perm members)
    (fits : Fits key (.table entries)) : Fits key (.table members) := by
  cases fits with
  | analyzers strings =>
    exact .analyzers fun entry member => strings entry (perm.mem_iff.mpr member)

theorem exists_seconds {number : Int} (least : 0 ≤ number) (greatest : number < UInt64.size) :
    ∃ seconds : UInt64, number = seconds.toNat := by
  have small : number.toNat < UInt64.size := by omega
  refine ⟨UInt64.ofNat number.toNat, ?_⟩
  rw [UInt64.toNat_ofNat_of_lt' small, Int.toNat_of_nonneg least]

theorem strings_textTable : ∀ entry ∈ textTable programs, ∃ text, entry.2 = .string text := by
  rw [textTable, List.forall_mem_map]
  exact fun program _ => ⟨program.2, rfl⟩

/-- A setting that is made from what a value is read as. -/
theorem made_eq_some_iff {α : Type} {read? : Value → Option α} {write : α → Value}
    {make : α → Settings} (inverse : ∀ result, read? value = some result ↔ value = write result) :
    (do return make (← read? value)) = some settings
      ↔ ∃ result, value = write result ∧ make result = settings := by
  simp only [Option.bind_eq_bind, Option.bind_eq_some_iff, Option.pure_def, Option.some.injEq,
    inverse]

theorem overlaid_timeoutSeconds :
    start.overlaid [("timeout_secs", .integer seconds.toNat)]
      = { start with timeoutSeconds := some seconds } := by
  have read (value : Value) :
      start.overlaid [("timeout_secs", value)] = { start with timeoutSeconds := seconds? value } :=
    rfl
  rw [read, seconds?_toNat]

theorem overlaid_fileSuffixes :
    start.overlaid [("file_suffixes", .array (texts.map .string))]
      = { start with fileSuffixes := some texts } := by
  simp [overlaid, List.lookup_cons, texts?_map]

theorem overlaid_analyzers :
    start.overlaid [("analyzers", .table (textTable programs))]
      = { start with analyzers := programs } := by
  simp [overlaid, List.lookup_cons, namedTexts?_textTable]

/-- An entry is taken exactly if it fits its key; then it takes the place of what was
there. -/
theorem set?_eq_some_iff :
    start.set? (key, value) = some settings
      ↔ Fits key value ∧ settings = start.overlaid [(key, value)] := by
  constructor
  · intro set
    unfold set? at set
    split at set
    case h_1 equal =>
      cases equal
      obtain ⟨text, rfl, rfl⟩ := (made_eq_some_iff fun _ => text?_eq_some_iff).mp set
      exact ⟨.bundle, rfl⟩
    case h_2 equal =>
      cases equal
      obtain ⟨text, rfl, rfl⟩ := (made_eq_some_iff fun _ => text?_eq_some_iff).mp set
      exact ⟨.osName, rfl⟩
    case h_3 equal =>
      cases equal
      obtain ⟨seconds, rfl, rfl⟩ := (made_eq_some_iff fun _ => seconds?_eq_some_iff).mp set
      exact ⟨.timeoutSeconds (Int.natCast_nonneg _) (Int.ofNat_lt.mpr seconds.toNat_lt),
        overlaid_timeoutSeconds.symm⟩
    case h_4 equal =>
      cases equal
      obtain ⟨text, rfl, rfl⟩ := (made_eq_some_iff fun _ => text?_eq_some_iff).mp set
      exact ⟨.language, rfl⟩
    case h_5 equal =>
      cases equal
      obtain ⟨texts, rfl, rfl⟩ := (made_eq_some_iff fun _ => texts?_eq_some_iff).mp set
      exact ⟨.fileSuffixes (by simp), overlaid_fileSuffixes.symm⟩
    case h_6 equal =>
      cases equal
      obtain ⟨programs, rfl, rfl⟩ := (made_eq_some_iff fun _ => namedTexts?_eq_some_iff).mp set
      exact ⟨.analyzers strings_textTable, overlaid_analyzers.symm⟩
    case h_7 => contradiction
  · rintro ⟨fits, rfl⟩
    cases fits with
    | bundle => rfl
    | osName => rfl
    | timeoutSeconds least greatest =>
      obtain ⟨seconds, rfl⟩ := exists_seconds least greatest
      rw [overlaid_timeoutSeconds]
      exact (made_eq_some_iff fun _ => seconds?_eq_some_iff).mpr ⟨seconds, rfl, rfl⟩
    | language => rfl
    | fileSuffixes strings =>
      obtain ⟨texts, rfl⟩ := exists_texts strings
      rw [overlaid_fileSuffixes]
      exact (made_eq_some_iff fun _ => texts?_eq_some_iff).mpr ⟨texts, rfl, rfl⟩
    | analyzers strings =>
      obtain ⟨programs, rfl⟩ := exists_textTable strings
      rw [overlaid_analyzers]
      exact (made_eq_some_iff fun _ => namedTexts?_eq_some_iff).mpr ⟨programs, rfl, rfl⟩

/-! ## Tables -/

/-- What one more entry of a new key adds to the look-ups of a table. -/
theorem elim_lookup_cons {α : Type} {found : Value → α} {missing : α}
    (fresh : more.lookup key = none) :
    (more.lookup name).elim (([(key, value)].lookup name).elim missing found) found
      = (((key, value) :: more).lookup name).elim missing found := by
  rw [List.lookup_cons, List.lookup_cons]
  by_cases same : name = key
  · subst same
    rw [beq_self_eq_true, fresh]
    rfl
  · rw [beq_false_of_ne same]
    rfl

theorem overlaid_cons (fresh : more.lookup key = none) :
    (start.overlaid [(key, value)]).overlaid more = start.overlaid ((key, value) :: more) := by
  simp only [overlaid, elim_lookup_cons fresh]

/-- The order of the keys of a table does not matter. -/
theorem overlaid_perm (distinct : (table.map Prod.fst).Nodup) (perm : table.Perm other) :
    start.overlaid table = start.overlaid other := by
  simp only [overlaid, Dictionary.lookup_perm distinct perm]

/-- Entries are taken one after another exactly if each of them fits. -/
theorem foldlM_set?_eq_some_iff (distinct : (table.map Prod.fst).Nodup) :
    table.foldlM set? start = some settings
      ↔ (∀ entry ∈ table, Fits entry.1 entry.2) ∧ settings = start.overlaid table := by
  induction table generalizing start with
  | nil => simp [overlaid, eq_comm]
  | cons entry more inductionHypothesis =>
    obtain ⟨key, value⟩ := entry
    obtain ⟨fresh, moreDistinct⟩ := List.nodup_cons.mp distinct
    rw [List.foldlM_cons, Option.bind_eq_bind, Option.bind_eq_some_iff, List.forall_mem_cons,
      ← overlaid_cons (Dictionary.lookup_eq_none_iff_not_mem.mpr fresh)]
    simp only [set?_eq_some_iff, inductionHypothesis moreDistinct]
    constructor
    · rintro ⟨next, ⟨fits, rfl⟩, allFit, same⟩
      exact ⟨⟨fits, allFit⟩, same⟩
    · rintro ⟨⟨fits, allFit⟩, same⟩
      exact ⟨_, ⟨fits, rfl⟩, allFit, same⟩

/-- A table gives settings exactly if each of its entries fits its key. -/
theorem ofTable?_eq_some_iff (distinct : (table.map Prod.fst).Nodup) :
    ofTable? table = some settings
      ↔ (∀ entry ∈ table, Fits entry.1 entry.2) ∧ settings = unset.overlaid table :=
  foldlM_set?_eq_some_iff distinct

theorem ofTable?_eq_none_iff (distinct : (table.map Prod.fst).Nodup) :
    ofTable? table = none ↔ ¬∀ entry ∈ table, Fits entry.1 entry.2 := by
  rw [Option.eq_none_iff_forall_ne_some]
  simp [ofTable?_eq_some_iff distinct]

/-- The order of the keys of a table makes no difference. -/
theorem ofTable?_perm (distinct : (table.map Prod.fst).Nodup) (perm : table.Perm other) :
    ofTable? table = ofTable? other := by
  apply Option.ext
  intro settings
  rw [ofTable?_eq_some_iff distinct,
    ofTable?_eq_some_iff ((perm.map Prod.fst).nodup_iff.mp distinct),
    overlaid_perm distinct perm]
  simp only [perm.mem_iff]

/-- A value that is read from what a table has under a key. -/
theorem elim_lookup_eq_some_iff {α : Type} {read? : Value → Option α} {result : α}
    {written : Value} (inverse : ∀ value, read? value = some result ↔ value = written)
    (distinct : (table.map Prod.fst).Nodup) :
    (table.lookup key).elim none read? = some result ↔ (key, written) ∈ table := by
  rw [Dictionary.mem_iff_lookup distinct]
  cases table.lookup key with
  | none => simp
  | some value => simp [inverse]

/-- The settings of a table that fits are said by it, key by key. -/
theorem saidBy_overlaid (distinct : (table.map Prod.fst).Nodup)
    (fits : ∀ entry ∈ table, Fits entry.1 entry.2) : SaidBy table (unset.overlaid table) where
  bundle := fun _ => elim_lookup_eq_some_iff (fun _ => text?_eq_some_iff) distinct
  osName := fun _ => elim_lookup_eq_some_iff (fun _ => text?_eq_some_iff) distinct
  timeoutSeconds := fun _ => elim_lookup_eq_some_iff (fun _ => seconds?_eq_some_iff) distinct
  language := fun _ => elim_lookup_eq_some_iff (fun _ => text?_eq_some_iff) distinct
  fileSuffixes := fun _ => elim_lookup_eq_some_iff (fun _ => texts?_eq_some_iff) distinct
  analyzers := by
    intro entries member
    obtain ⟨programs, rfl⟩ := (fits _ member).exists_textTable
    rw [overlaid, (Dictionary.mem_iff_lookup distinct).mp member, Option.elim_some,
      namedTexts?_textTable, Option.getD_some]
  noAnalyzers := by
    intro missing
    have free : table.lookup "analyzers" = none := by
      cases found : table.lookup "analyzers" with
      | none => rfl
      | some value => exact absurd (Dictionary.mem_of_lookup found) (missing value)
    rw [overlaid, free]
    rfl

/-! ## Analyzers in another order -/

/-- Settings that are the same, except that the analyzers may come in another order. -/
structure Alike (settings other : Settings) : Prop where
  bundle : settings.bundle = other.bundle
  osName : settings.osName = other.osName
  timeoutSeconds : settings.timeoutSeconds = other.timeoutSeconds
  language : settings.language = other.language
  fileSuffixes : settings.fileSuffixes = other.fileSuffixes
  analyzers : settings.analyzers.Perm other.analyzers

theorem textTable_perm {entries : List (String × Value)}
    (perm : (textTable programs).Perm entries) :
    ∃ others, entries = textTable others ∧ programs.Perm others := by
  have strings : ∀ entry ∈ entries, ∃ text, entry.2 = .string text :=
    fun entry member => strings_textTable entry (perm.mem_iff.mpr member)
  obtain ⟨others, rfl⟩ := exists_textTable strings
  have injective : Function.Injective fun entry : String × String =>
      (entry.1, Value.string entry.2) := by
    rintro ⟨key, text⟩ ⟨name, other⟩ same
    cases same
    rfl
  exact ⟨others, rfl, (List.map_perm_map_iff injective).mp perm⟩

/-- Analyzers in front of other keys are not changed by them. -/
theorem overlaid_analyzers_cons (fresh : more.lookup "analyzers" = none) :
    start.overlaid (("analyzers", .table (textTable programs)) :: more)
      = { start.overlaid more with analyzers := programs } := by
  rw [← overlaid_cons fresh, overlaid_analyzers, overlaid, overlaid, fresh]
  rfl

/-- A table without analyzers says what one with an empty table of them says. -/
theorem ofTable?_noAnalyzers (distinct : (more.map Prod.fst).Nodup)
    (fresh : more.lookup "analyzers" = none) :
    ofTable? (("analyzers", .table []) :: more) = ofTable? more := by
  have longer : ((("analyzers", Value.table []) :: more).map Prod.fst).Nodup :=
    List.nodup_cons.mpr ⟨Dictionary.lookup_eq_none_iff_not_mem.mp fresh, distinct⟩
  have empty : unset.overlaid (("analyzers", .table []) :: more) = unset.overlaid more := by
    rw [← overlaid_cons fresh]
    rfl
  apply Option.ext
  intro settings
  rw [ofTable?_eq_some_iff longer, ofTable?_eq_some_iff distinct, empty, List.forall_mem_cons]
  simp [Fits.analyzers]

/-- Analyzers in another order. -/
theorem ofTable?_analyzers_perm {entries members : List (String × Value)}
    (distinct : (more.map Prod.fst).Nodup) (fresh : more.lookup "analyzers" = none)
    (perm : entries.Perm members) :
    Option.Rel Alike (ofTable? (("analyzers", .table entries) :: more))
      (ofTable? (("analyzers", .table members) :: more)) := by
  have longer (value : Value) : ((("analyzers", value) :: more).map Prod.fst).Nodup :=
    List.nodup_cons.mpr ⟨Dictionary.lookup_eq_none_iff_not_mem.mp fresh, distinct⟩
  have same : (∀ entry ∈ ("analyzers", Value.table entries) :: more, Fits entry.1 entry.2)
      ↔ ∀ entry ∈ ("analyzers", Value.table members) :: more, Fits entry.1 entry.2 := by
    rw [List.forall_mem_cons, List.forall_mem_cons]
    exact and_congr_left' ⟨Fits.perm perm, Fits.perm perm.symm⟩
  by_cases fits : ∀ entry ∈ ("analyzers", Value.table entries) :: more, Fits entry.1 entry.2
  · rw [(ofTable?_eq_some_iff (longer _)).mpr ⟨fits, rfl⟩,
      (ofTable?_eq_some_iff (longer _)).mpr ⟨same.mp fits, rfl⟩]
    obtain ⟨programs, rfl⟩ := (List.forall_mem_cons.mp fits).1.exists_textTable
    obtain ⟨others, rfl, permuted⟩ := textTable_perm perm
    rw [overlaid_analyzers_cons fresh, overlaid_analyzers_cons fresh]
    exact .some ⟨rfl, rfl, rfl, rfl, rfl, permuted⟩
  · rw [(ofTable?_eq_none_iff (longer _)).mpr fits,
      (ofTable?_eq_none_iff (longer _)).mpr fun others => fits (same.mpr others)]
    exact .none

end Settings

end Findings
