import Mathlib
import Findings.Proofs.Settings.Schema
import Findings.Proofs.Toml.Layout

/-!
Contract: the settings of a text are exactly those of the table that it describes.

Owns:
- `SameOutcome`, two attempts to read settings that end alike;
- the law that a table of analyzers means the same however it is laid out;
- which texts give settings, which settings these are, and that every other text is
  refused as a whole, with the path that it came from.

Does not own: what stands in for settings that are absent.
-/

namespace Findings

namespace Settings

open Toml (Value Line Holds Writes linesOf?)

variable {text other path : String} {settings : Settings} {lines otherLines : List Line}
  {table more inside : List (String × Value)}

/-! ## Layouts -/

/-- Two attempts that end alike: with the same settings, but for the order of the
analyzers, or with the same fault. -/
inductive SameOutcome :
    Except SettingsError Settings → Except SettingsError Settings → Prop
  | ok {settings other : Settings} (alike : Alike settings other) :
      SameOutcome (.ok settings) (.ok other)
  | error {fault : SettingsError} : SameOutcome (.error fault) (.error fault)

theorem Alike.refl : Alike settings settings :=
  ⟨rfl, rfl, rfl, rfl, rfl, .refl _⟩

/-- Settings that are like the same ones are like each other. -/
theorem Alike.trans_symm {settings other common : Settings} (first : Alike settings common)
    (second : Alike other common) : Alike settings other where
  bundle := first.bundle.trans second.bundle.symm
  osName := first.osName.trans second.osName.symm
  timeoutSeconds := first.timeoutSeconds.trans second.timeoutSeconds.symm
  language := first.language.trans second.language.symm
  fileSuffixes := first.fileSuffixes.trans second.fileSuffixes.symm
  analyzers := first.analyzers.trans second.analyzers.symm

theorem rel_alike_refl {given : Option Settings} : Option.Rel Alike given given := by
  cases given with
  | none => exact .none
  | some settings => exact .some .refl

theorem rel_alike_trans_symm {given other common : Option Settings}
    (first : Option.Rel Alike given common) (second : Option.Rel Alike other common) :
    Option.Rel Alike given other := by
  cases first with
  | none =>
    cases second
    exact .none
  | some firstAlike =>
    cases second with
    | some secondAlike => exact .some (firstAlike.trans_symm secondAlike)

/-- A table gives what it would give with the analyzers in front of all other keys. -/
theorem ofTable?_of_holds (distinct : (more.map Prod.fst).Nodup)
    (apart : "analyzers" ∉ more.map Prod.fst) (holds : Holds "analyzers" more inside table) :
    Option.Rel Alike (ofTable? table) (ofTable? (("analyzers", .table inside) :: more)) := by
  have fresh := Dictionary.lookup_eq_none_of_not_mem apart
  cases holds with
  | @named members ownPerm insidePerm =>
    have longer : ((("analyzers", Value.table members) :: more).map Prod.fst).Nodup :=
      List.nodup_cons.mpr ⟨apart, distinct⟩
    rw [← ofTable?_perm longer ownPerm.symm]
    exact ofTable?_analyzers_perm distinct fresh insidePerm
  | missing ownPerm empty =>
    rw [empty, ofTable?_noAnalyzers distinct fresh, ofTable?_perm distinct ownPerm.symm]
    exact rel_alike_refl

/-- Lines that say the same in two layouts give the same settings. -/
theorem ofTable?_of_writes (writes : Writes "analyzers" more inside lines)
    (otherWrites : Writes "analyzers" more inside otherLines)
    (apart : "analyzers" ∉ more.map Prod.fst)
    (good : ∀ line ∈ lines, line.Distinct) (otherGood : ∀ line ∈ otherLines, line.Distinct) :
    Option.Rel Alike ((Toml.tableOf lines).bind ofTable?)
      ((Toml.tableOf otherLines).bind ofTable?) := by
  obtain ⟨table, holds, run⟩ := Toml.tableOf_of_writes writes apart good
  obtain ⟨otherTable, otherHolds, otherRun⟩ := Toml.tableOf_of_writes otherWrites apart otherGood
  by_cases distinct : (more.map Prod.fst).Nodup ∧ (inside.map Prod.fst).Nodup
  · rw [(run table).mpr ⟨distinct.1, distinct.2, rfl⟩,
      (otherRun otherTable).mpr ⟨distinct.1, distinct.2, rfl⟩]
    exact rel_alike_trans_symm (ofTable?_of_holds distinct.1 apart holds)
      (ofTable?_of_holds distinct.1 apart otherHolds)
  · have refused : Toml.tableOf lines = none := Option.eq_none_iff_forall_ne_some.mpr
      fun result made => distinct ⟨((run result).mp made).1, ((run result).mp made).2.1⟩
    have otherRefused : Toml.tableOf otherLines = none := Option.eq_none_iff_forall_ne_some.mpr
      fun result made => distinct ⟨((otherRun result).mp made).1, ((otherRun result).mp made).2.1⟩
    rw [refused, otherRefused]
    exact .none

/-! ## Texts -/

theorem ofText_eq_ok_iff :
    ofText text path = .ok settings ↔ (Toml.parse text).bind ofTable? = some settings := by
  rw [ofText, parse?, Option.bind_eq_bind]
  cases (Toml.parse text).bind ofTable? <;> simp

/-- Texts of settings that are alike are read alike, wherever they come from. -/
theorem ofText_sameOutcome (rel : Option.Rel Alike (parse? text) (parse? other)) :
    SameOutcome (ofText text path) (ofText other path) := by
  rw [ofText, ofText]
  revert rel
  generalize parse? text = given
  generalize parse? other = otherGiven
  intro rel
  cases rel with
  | none => exact .error
  | some alike => exact .ok alike

/-- The keys of the table of a text. -/
theorem nodup_keys_of_parse (read : Toml.parse text = some table) :
    (table.map Prod.fst).Nodup := by
  cases Toml.distinct_of_parse read with
  | table keys all => exact keys

/-- A document gives settings exactly if each of its entries is one of the known kinds;
then the settings are overlaid with all of them. -/
theorem ofText_eq_ok_iff_fits (read : Toml.parse text = some table) :
    ofText text path = .ok settings
      ↔ (∀ entry ∈ table, Fits entry.1 entry.2) ∧ settings = unset.overlaid table := by
  rw [ofText_eq_ok_iff, read, Option.bind_some, ofTable?_eq_some_iff (nodup_keys_of_parse read)]

/-- The settings of a text.  There are some exactly if the text is a document and every
entry of its table fits the schema; they are then what the table says.  Any other text
is refused with the path that it came from.  Neither the order of the keys makes a
difference nor whether the analyzers stand under a header, in one value or under dotted
keys. -/
theorem ofText_exact (text path : String) :
    ((∃ settings, ofText text path = .ok settings)
      ↔ ∃ table, Toml.parse text = some table ∧ ∀ entry ∈ table, Fits entry.1 entry.2)
    ∧ (∀ settings, ofText text path = .ok settings →
      ∃ table, Toml.parse text = some table ∧ (Value.table table).Distinct
        ∧ SaidBy table settings)
    ∧ ((¬∃ settings, ofText text path = .ok settings) →
      ofText text path = .error (.invalid path))
    ∧ (∀ other table otherTable, Toml.parse text = some table →
      Toml.parse other = some otherTable → table.Perm otherTable →
        ofText text path = ofText other path)
    ∧ ∀ other lines otherLines more inside, linesOf? text = some lines →
      linesOf? other = some otherLines → Writes "analyzers" more inside lines →
        Writes "analyzers" more inside otherLines → "analyzers" ∉ more.map Prod.fst →
          SameOutcome (ofText text path) (ofText other path) := by
  refine ⟨?accepted, ?said, ?refused, ?ordered, ?laidOut⟩
  case accepted =>
    constructor
    · rintro ⟨settings, decoded⟩
      obtain ⟨table, read, made⟩ := Option.bind_eq_some_iff.mp (ofText_eq_ok_iff.mp decoded)
      exact ⟨table, read, ((ofText_eq_ok_iff_fits read).mp decoded).1⟩
    · rintro ⟨table, read, fits⟩
      exact ⟨_, (ofText_eq_ok_iff_fits read).mpr ⟨fits, rfl⟩⟩
  case said =>
    intro settings decoded
    obtain ⟨table, read, made⟩ := Option.bind_eq_some_iff.mp (ofText_eq_ok_iff.mp decoded)
    obtain ⟨fits, rfl⟩ := (ofText_eq_ok_iff_fits read).mp decoded
    exact ⟨table, read, Toml.distinct_of_parse read,
      saidBy_overlaid (nodup_keys_of_parse read) fits⟩
  case refused =>
    intro refused
    rw [ofText]
    split
    · rename_i settings made
      exact absurd ⟨settings, ofText_eq_ok_iff.mpr made⟩ refused
    · rfl
  case ordered =>
    intro other table otherTable read otherRead perm
    have same := ofTable?_perm (nodup_keys_of_parse read) perm
    rw [ofText, ofText, parse?, parse?, read, otherRead]
    simp [same]
  case laidOut =>
    intro other lines otherLines more inside read otherRead writes otherWrites apart
    apply ofText_sameOutcome
    rw [parse?, Toml.parse_eq, read, parse?, Toml.parse_eq, otherRead]
    exact ofTable?_of_writes writes otherWrites apart (Toml.distinct_of_linesOf? read)
      (Toml.distinct_of_linesOf? otherRead)

/-- Two analyzers under a header, in one value and under dotted keys, and a number of
seconds that is none. -/
theorem ofText_exact_layouts :
    let header := "language = 'c'\n[analyzers]\nMac = 'm'\nLinux = 'l'"
    let inline := "analyzers = \x7bMac = 'm', Linux = 'l'\x7d\nlanguage = 'c'"
    let dotted := "analyzers.Linux = 'l'\nlanguage = 'c'\nanalyzers.Mac = 'm'"
    let settings : Settings :=
      ⟨none, none, none, some "c", none, [("Mac", "m"), ("Linux", "l")]⟩
    ofText header "p" = .ok settings
    ∧ (∃ table, Toml.parse header = some table ∧ (Value.table table).Distinct
      ∧ SaidBy table settings)
    ∧ ofText header "p" = ofText inline "p"
    ∧ SameOutcome (ofText inline "p") (ofText dotted "p")
    ∧ ofText "timeout_secs = -1" "p" = .error (.invalid "p") := by
  intro header inline dotted settings
  let inside : List (String × Value) := [("Mac", .string "m"), ("Linux", .string "l")]
  have headerLines : linesOf? header
      = some [.pair ["language"] (.string "c"), .header ["analyzers"],
        .pair ["Mac"] (.string "m"), .pair ["Linux"] (.string "l")] := by
    cbv
  have inlineLines : linesOf? inline
      = some [.pair ["analyzers"] (.table inside), .pair ["language"] (.string "c")] := by
    cbv
  have dottedLines : linesOf? dotted
      = some [.pair ["analyzers", "Linux"] (.string "l"), .pair ["language"] (.string "c"),
        .pair ["analyzers", "Mac"] (.string "m")] := by
    cbv
  have headerTable : Toml.parse header
      = some [("language", .string "c"), ("analyzers", .table inside)] := by
    rw [Toml.parse_eq, headerLines]
    rfl
  have inlineTable : Toml.parse inline
      = some [("analyzers", .table inside), ("language", .string "c")] := by
    rw [Toml.parse_eq, inlineLines]
    rfl
  have apart : "analyzers" ∉ [("language", Value.string "c")].map Prod.fst := by decide
  have byInline : Writes "analyzers" [("language", .string "c")] inside _ :=
    .inline (.refl _) (.refl _)
  have byDots : Writes "analyzers" [("language", .string "c")] inside _ :=
    .dotted (.refl _) (.swap _ _ []) (.inside (.own (.inside .nil)))
  have decoded : ofText header "p" = .ok settings := by decide +kernel
  have refused : ofText "timeout_secs = -1" "p" = .error (.invalid "p") := by decide +kernel
  obtain ⟨-, said, -, ordered, -⟩ := ofText_exact header "p"
  obtain ⟨-, -, -, -, laidOut⟩ := ofText_exact inline "p"
  exact ⟨decoded, said settings decoded,
    ordered _ _ _ headerTable inlineTable (.swap _ _ []),
    laidOut _ _ _ _ _ inlineLines dottedLines byInline byDots apart,
    (ofText_exact "timeout_secs = -1" "p").2.2.1 (by rw [refused]; simp)⟩

end Settings

end Findings
