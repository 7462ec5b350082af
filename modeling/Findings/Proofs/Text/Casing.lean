import Findings.Text.Casing

/-!
Contract: full case conversion of texts that differ in the case of ASCII letters
only.

Owns:
- the facts about single characters, each of which reads a character and its ASCII
  lower case alike: the full mappings, the sigma, and the two properties that decide
  the form of a sigma;
- the law that full lower case and full upper case are the same for such texts.

Lower case depends on the neighbours of a sigma, so the law about it is one about
the texts on both sides of every character.

Does not own: other letters, which a comparison of ASCII letters tells apart.
-/

namespace Findings.Text

open Unicode

variable {c : Char} {ranges : List (Nat × Nat)} {code least greatest : Nat}
  {before text left right : List Char}

/-! ## Capital letters -/

def capitals : List Char :=
  (List.range 26).map fun index => Char.ofNat (0x41 + index)

/-- What is decided letter by letter. -/
theorem of_mem_capitals (property : Char → Prop) [DecidablePred property]
    (all : capitals.all (fun c => decide (property c)) = true) (capital : c ∈ capitals) :
    property c :=
  of_decide_eq_true (List.all_eq_true.mp all c capital)

theorem mem_capitals_iff : c ∈ capitals ↔ 0x41 ≤ c.toNat ∧ c.toNat ≤ 0x5A := by
  constructor
  · exact of_mem_capitals (fun c => 0x41 ≤ c.toNat ∧ c.toNat ≤ 0x5A) (by decide)
  · rintro ⟨first, last⟩
    apply List.mem_map.mpr
    refine ⟨c.toNat - 0x41, ?_, ?_⟩
    · rw [List.mem_range]
      omega
    · rw [Nat.add_sub_cancel' first, Char.ofNat_toNat]

theorem toLower_of_not_mem_capitals (other : c ∉ capitals) : c.toLower = c := by
  unfold Char.toLower
  rw [dif_neg]
  intro inside
  exact other (mem_capitals_iff.mpr inside)

/-- What the capital letters have in common with their lower case is common to all
characters. -/
theorem eq_toLower_of_capitals {α : Type} (read : Char → α)
    (alike : ∀ c ∈ capitals, read c.toLower = read c) (c : Char) : read c.toLower = read c := by
  by_cases capital : c ∈ capitals
  · exact alike c capital
  · rw [toLower_of_not_mem_capitals capital]

/-! ## Tables at the letters -/

theorem inRanges_of_mem (member : (least, greatest) ∈ ranges)
    (above : least ≤ code) (below : code ≤ greatest) : inRanges ranges code = true :=
  List.any_eq_true.mpr ⟨_, member, by simp [above, below]⟩

/-- A code point between two others that no range comes near is in none of them. -/
theorem inRanges_of_apart
    (apart : ∀ range ∈ ranges, range.2 < least ∨ greatest < range.1)
    (above : least ≤ code) (below : code ≤ greatest) : inRanges ranges code = false := by
  apply List.any_eq_false.mpr
  intro range member
  have := apart range member
  simp only [Bool.and_eq_true, decide_eq_true_eq, not_and]
  omega

theorem toNat_toLower_of_mem_capitals (capital : c ∈ capitals) :
    c.toLower.toNat = c.toNat + 0x20 :=
  of_mem_capitals (fun c => c.toLower.toNat = c.toNat + 0x20) (by decide) capital

theorem upperChar_toLower (c : Char) : upperChar c.toLower = upperChar c := by
  apply eq_toLower_of_capitals upperChar
  exact fun _ => of_mem_capitals (fun c => upperChar c.toLower = upperChar c) (by decide +kernel)

theorem lowerChar_toLower (c : Char) : lowerChar c.toLower = lowerChar c := by
  apply eq_toLower_of_capitals lowerChar
  exact fun _ => of_mem_capitals (fun c => lowerChar c.toLower = lowerChar c) (by decide +kernel)

theorem isSigma_toLower (c : Char) : decide (c.toLower = 'Σ') = decide (c = 'Σ') := by
  apply eq_toLower_of_capitals fun c => decide (c = 'Σ')
  exact fun _ => of_mem_capitals (fun c => decide (c.toLower = 'Σ') = decide (c = 'Σ'))
    (by decide)

/-- No ASCII letter is case-ignorable. -/
theorem isIgnorable_toLower (c : Char) :
    inRanges caseIgnorableRanges c.toLower.toNat = inRanges caseIgnorableRanges c.toNat := by
  apply eq_toLower_of_capitals fun c => inRanges caseIgnorableRanges c.toNat
  intro c capital
  obtain ⟨first, last⟩ := mem_capitals_iff.mp capital
  have apart : ∀ range ∈ caseIgnorableRanges, range.2 < 0x41 ∨ 0x5A < range.1 := by
    decide +kernel
  have smallApart : ∀ range ∈ caseIgnorableRanges, range.2 < 0x61 ∨ 0x7A < range.1 := by
    decide +kernel
  rw [inRanges_of_apart apart first last, toNat_toLower_of_mem_capitals capital]
  exact inRanges_of_apart smallApart (by omega) (by omega)

/-- Every ASCII letter is cased. -/
theorem isCased_toLower (c : Char) :
    inRanges casedRanges c.toLower.toNat = inRanges casedRanges c.toNat := by
  apply eq_toLower_of_capitals fun c => inRanges casedRanges c.toNat
  intro c capital
  obtain ⟨first, last⟩ := mem_capitals_iff.mp capital
  have large : (0x41, 0x5A) ∈ casedRanges := by decide
  have small : (0x61, 0x7A) ∈ casedRanges := by decide
  rw [inRanges_of_mem large first last, toNat_toLower_of_mem_capitals capital]
  exact inRanges_of_mem small (by omega) (by omega)

/-! ## Texts -/

/-- Whether a cased character is met does not depend on the case of ASCII letters. -/
theorem meetsCased_map_toLower : meetsCased (text.map Char.toLower) = meetsCased text := by
  induction text with
  | nil => rfl
  | cons c text inductionHypothesis =>
    unfold meetsCased at inductionHypothesis ⊢
    rw [List.map_cons, List.dropWhile_cons, List.dropWhile_cons, isIgnorable_toLower]
    by_cases ignored : inRanges caseIgnorableRanges c.toNat = true
    · rw [if_pos ignored, if_pos ignored]
      exact inductionHypothesis
    · rw [if_neg ignored, if_neg ignored]
      exact isCased_toLower c

/-- The form of a sigma does not depend on the case of the ASCII letters around it. -/
theorem lowerSigma_map_toLower :
    lowerSigma (before.map Char.toLower) (text.map Char.toLower) = lowerSigma before text := by
  rw [lowerSigma, lowerSigma, meetsCased_map_toLower, meetsCased_map_toLower]

/-- A text is lowered like its ASCII lower case, whatever stands before it. -/
theorem lowercaseAfter_map_toLower (before text : List Char) :
    lowercaseAfter (before.map Char.toLower) (text.map Char.toLower)
      = lowercaseAfter before text := by
  induction text generalizing before with
  | nil => rfl
  | cons c text inductionHypothesis =>
    have sigma : c.toLower = 'Σ' ↔ c = 'Σ' := decide_eq_decide.mp (isSigma_toLower c)
    have rest := inductionHypothesis (c :: before)
    rw [List.map_cons] at rest
    simp only [List.map_cons, lowercaseAfter, sigma, lowerSigma_map_toLower, lowerChar_toLower,
      rest]

theorem lowercase_map_toLower : lowercase (text.map Char.toLower) = lowercase text :=
  lowercaseAfter_map_toLower [] text

theorem uppercase_map_toLower : uppercase (text.map Char.toLower) = uppercase text := by
  rw [uppercase, uppercase, List.flatMap_map]
  exact congrArg text.flatMap (funext upperChar_toLower)

/-- Texts that differ in the case of ASCII letters only have one lower case. -/
theorem lowercase_eq_of_sameUpToAsciiCase (same : sameUpToAsciiCase left right) :
    lowercase left = lowercase right := by
  have letters : left.map Char.toLower = right.map Char.toLower := eq_of_beq same
  rw [← lowercase_map_toLower, letters, lowercase_map_toLower]

/-- Texts that differ in the case of ASCII letters only have one upper case. -/
theorem uppercase_eq_of_sameUpToAsciiCase (same : sameUpToAsciiCase left right) :
    uppercase left = uppercase right := by
  have letters : left.map Char.toLower = right.map Char.toLower := eq_of_beq same
  rw [← uppercase_map_toLower, letters, uppercase_map_toLower]

end Findings.Text
