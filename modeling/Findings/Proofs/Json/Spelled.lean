import Findings.Proofs.Json.Outcome
import Findings.Proofs.Json.Quoted

/-!
Contract: a string in any spelling is read as the string that is spelled, and is
passed over as a whole.

Owns:
- the value of four hexadecimal digits of either case;
- each spelling of a character, read and passed over;
- the strings made of them.

Does not own: texts that spell no string.
-/

namespace Findings.Json

variable {read rest : List Char} {n : Nat}

/-! ## Hexadecimal digits -/

theorem hexValue?_hexDigitOf {capital : Bool} (small : n < 16) :
    hexValue? (hexDigitOf n capital) = some n := by
  have all : ∀ n, n < 16 → ∀ capital, hexValue? (hexDigitOf n capital) = some n := by decide
  exact all n small capital

/-- The four digits of a number give the number back. -/
theorem fourHex_hexDigits {capital : Fin 4 → Bool} (small : n < 0x10000) :
    fourHex (hexDigits n capital ++ rest) = .ok n := by
  have digit (place : Nat) : n / place % 0x10 < 16 := Nat.mod_lt _ (by decide)
  have last : n % 0x10 < 16 := Nat.mod_lt _ (by decide)
  have value : ((n / 0x1000 % 0x10 * 16 + n / 0x100 % 0x10) * 16 + n / 0x10 % 0x10) * 16
      + n % 0x10 = n := by
    omega
  simp only [hexDigits, List.cons_append, List.nil_append, fourHex, fourHexValue?,
    hexValue?_hexDigitOf (digit _), hexValue?_hexDigitOf last, Option.bind_eq_bind,
    Option.bind_some, value]

@[simp]
theorem drop_hexDigits {capital : Fin 4 → Bool} :
    (hexDigits n capital ++ rest).drop 4 = rest := by
  simp [hexDigits]

/-! ## Surrogates -/

theorem isLeading_iff : isLeading n = true ↔ 0xD800 ≤ n ∧ n ≤ 0xDBFF := by
  simp [isLeading]

theorem isTrailing_iff : isTrailing n = true ↔ 0xDC00 ≤ n ∧ n ≤ 0xDFFF := by
  simp [isTrailing]

theorem valid_toNat (c : Char) : c.toNat < 0xD800 ∨ 0xDFFF < c.toNat ∧ c.toNat < 0x110000 :=
  c.valid

/-- No character is a surrogate. -/
theorem not_surrogate (c : Char) : isTrailing c.toNat = false ∧ isLeading c.toNat = false := by
  have valid := valid_toNat c
  rw [Bool.eq_false_iff, Bool.eq_false_iff, Ne, Ne, isTrailing_iff, isLeading_iff]
  omega

theorem isLeading_leadingUnit {c : Char} (large : 0x10000 ≤ c.toNat) :
    isLeading (leadingUnit c) = true ∧ isTrailing (leadingUnit c) = false := by
  have valid := valid_toNat c
  rw [Bool.eq_false_iff, Ne, isTrailing_iff, isLeading_iff, leadingUnit]
  omega

theorem isTrailing_trailingUnit (c : Char) : isTrailing (trailingUnit c) = true := by
  rw [isTrailing_iff, trailingUnit]
  omega

theorem leadingUnit_lt (c : Char) : leadingUnit c < 0x10000 := by
  have valid := valid_toNat c
  rw [leadingUnit]
  omega

theorem trailingUnit_lt (c : Char) : trailingUnit c < 0x10000 := by
  rw [trailingUnit]
  omega

/-- The surrogates of a character make the character. -/
theorem pairChar_units {c : Char} (large : 0x10000 ≤ c.toNat) :
    pairChar (leadingUnit c) (trailingUnit c) = c := by
  have joined : (leadingUnit c - 0xD800) * 0x400 + (trailingUnit c - 0xDC00) + 0x10000
      = c.toNat := by
    simp only [leadingUnit, trailingUnit]
    omega
  rw [pairChar, joined, Char.ofNat_toNat]

/-! ## Characters -/

theorem unescapeLetter?_of_mem_shortEscapes {letter c : Char} (known : (letter, c) ∈ shortEscapes) :
    unescapeLetter? letter = some c ∧ letter ≠ 'u' := by
  have all : ∀ entry ∈ shortEscapes,
      unescapeLetter? entry.1 = some entry.2 ∧ entry.1 ≠ 'u' := by decide
  exact all _ known

theorem unescape_unit {c : Char} {capital : Fin 4 → Bool} (small : c.toNat < 0x10000) :
    unescape ('u' :: (hexDigits c.toNat capital ++ rest)) = .ok ⟨c, 5⟩ := by
  obtain ⟨notTrailing, notLeading⟩ := not_surrogate c
  simp [unescape, fourHex_hexDigits small, notTrailing, notLeading, Char.ofNat_toNat]

theorem unescape_pair
    {first second : Nat}
    {leading trailing : Fin 4 → Bool}
    (firstLeads : isLeading first = true ∧ isTrailing first = false)
    (secondTrails : isTrailing second = true)
    (small : first < 0x10000 ∧ second < 0x10000) :
    unescape ('u' :: (hexDigits first leading
        ++ '\\' :: 'u' :: (hexDigits second trailing ++ rest)))
      = .ok ⟨pairChar first second, 11⟩ := by
  have paired : trailingSurrogate first
      ('\\' :: 'u' :: (hexDigits second trailing ++ rest)) = .ok (pairChar first second) := by
    simp [trailingSurrogate, fourHex_hexDigits small.2, secondTrails]
  simp [unescape, fourHex_hexDigits small.1, firstLeads, paired]

theorem stringBody_pair
    {first second : Nat}
    {leading trailing : Fin 4 → Bool}
    (firstLeads : isLeading first = true ∧ isTrailing first = false)
    (secondTrails : isTrailing second = true)
    (small : first < 0x10000 ∧ second < 0x10000) :
    stringBody read (hexEscape first leading ++ (hexEscape second trailing ++ rest))
      = stringBody (pairChar first second :: read) rest := by
  have behind : ('u' :: (hexDigits first leading
      ++ '\\' :: 'u' :: (hexDigits second trailing ++ rest))).drop 11 = rest := by
    simp [hexDigits]
  rw [hexEscape, hexEscape, List.cons_append, List.cons_append, List.cons_append,
    List.cons_append, stringBody]
  simp only [unescape_pair firstLeads secondTrails small, behind, Char.reduceEq, if_false,
    if_true]

/-- A spelled character is read as the character. -/
theorem stringBody_spelled (spelled : SpelledChar) :
    stringBody read (spelled.text ++ rest) = stringBody (spelled.char :: read) rest := by
  cases spelled with
  | plain c allowed => exact stringBody_plain allowed.2.1 allowed.2.2 allowed.1
  | short letter c known =>
      obtain ⟨undone, notHex⟩ := unescapeLetter?_of_mem_shortEscapes known
      rw [SpelledChar.text, List.cons_append, stringBody]
      simp [unescape_letter undone notHex, SpelledChar.char]
  | unit c small capital =>
      rw [SpelledChar.text, hexEscape, List.cons_append, List.cons_append, stringBody]
      simp [unescape_unit small, SpelledChar.char]
  | pair c large leading trailing =>
      rw [SpelledChar.text, List.append_assoc,
        stringBody_pair (isLeading_leadingUnit large) (isTrailing_trailingUnit c)
          ⟨leadingUnit_lt c, trailingUnit_lt c⟩,
        pairChar_units large, SpelledChar.char]

/-- A group of hexadecimal digits is passed over, whatever it is. -/
theorem skipStringBody_hexEscape {capital : Fin 4 → Bool} (small : n < 0x10000) :
    skipStringBody (hexEscape n capital ++ rest) = skipStringBody rest := by
  rw [hexEscape, List.cons_append, List.cons_append, skipStringBody]
  simp [escapeExtent, fourHex_hexDigits small]

theorem skipStringBody_spelled (spelled : SpelledChar) :
    skipStringBody (spelled.text ++ rest) = skipStringBody rest := by
  cases spelled with
  | plain c allowed =>
      rw [SpelledChar.text, List.cons_append, skipStringBody]
      simp [allowed]
  | short letter c known =>
      obtain ⟨undone, notHex⟩ := unescapeLetter?_of_mem_shortEscapes known
      have taken : escapeExtent (letter :: rest) = .ok 1 := by
        unfold escapeExtent
        split
        · contradiction
        · rename_i same
          exact absurd (List.cons.inj same).1 notHex
        · rename_i same
          rw [(List.cons.inj same).1] at undone
          rw [undone]
      rw [SpelledChar.text, List.cons_append, skipStringBody]
      simp [taken]
  | unit c small capital => exact skipStringBody_hexEscape small
  | pair c large leading trailing =>
      rw [SpelledChar.text, List.append_assoc, skipStringBody_hexEscape (leadingUnit_lt c),
        skipStringBody_hexEscape (trailingUnit_lt c)]

/-! ## Strings -/

theorem stringBody_flatMap_spelled {spelled : List SpelledChar} :
    stringBody read (spelled.flatMap SpelledChar.text ++ '"' :: rest)
      = .ok (read.reverse ++ spelled.map SpelledChar.char, rest) := by
  induction spelled generalizing read with
  | nil =>
      rw [List.flatMap_nil, List.nil_append, stringBody]
      simp
  | cons first spelled inductionHypothesis =>
      rw [List.flatMap_cons, List.append_assoc, stringBody_spelled, inductionHypothesis]
      simp

theorem skipStringBody_flatMap_spelled {spelled : List SpelledChar} :
    skipStringBody (spelled.flatMap SpelledChar.text ++ '"' :: rest) = .ok rest := by
  induction spelled with
  | nil =>
      rw [List.flatMap_nil, List.nil_append, skipStringBody]
      simp
  | cons first spelled inductionHypothesis =>
      rw [List.flatMap_cons, List.append_assoc, skipStringBody_spelled, inductionHypothesis]

/-- The rest of a string behind its opening quote is read. -/
theorem run?_stringRest (spelled : List SpelledChar) :
    stringRest.run? (spelled.flatMap SpelledChar.text ++ '"' :: rest)
      = some (spelledString spelled, rest) := by
  simp [stringRest, stringBody_flatMap_spelled, spelledString, Except.toOption]

/-- The rest of a string behind its opening quote is passed over. -/
theorem run?_skipStringRest (spelled : List SpelledChar) :
    skipStringRest.run? (spelled.flatMap SpelledChar.text ++ '"' :: rest) = some ((), rest) := by
  simp [skipStringRest, skipStringBody_flatMap_spelled, Except.toOption]

end Findings.Json
