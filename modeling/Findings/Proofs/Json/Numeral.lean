import Findings.Proofs.Json.Reader

/-!
Contract: an integer that is written is read back.

Owns:
- the digits of a natural number, taken into a significand without loss as long
  as it fits 64 bits;
- the sign before them, and the integers between the least signed and the
  greatest unsigned number of 64 bits.

Does not own: fractions, exponents and longer numbers, which are never written.
-/

namespace Findings.Json

variable {text rest : List Char} {c : Char}

/-! ## Where a number ends -/

theorem not_isDigit_of_isBoundary (boundary : isBoundary c = true) : c.isDigit = false := by
  simp only [isBoundary, isSpace, Bool.or_eq_true, beq_iff_eq] at boundary
  obtain (((((rfl | rfl) | rfl) | rfl) | rfl) | rfl) | rfl := boundary <;> decide

theorem not_isBoundary_of_isDigit (digit : c.isDigit = true) : isBoundary c = false := by
  cases boundary : isBoundary c with
  | false => rfl
  | true =>
      rw [not_isDigit_of_isBoundary boundary] at digit
      contradiction

/-- A number that is followed by a bound has no fraction and no exponent. -/
theorem not_point_of_isBoundary (boundary : isBoundary c = true) :
    c ≠ '.' ∧ isExponentMark (some c) = false := by
  simp only [isBoundary, isSpace, Bool.or_eq_true, beq_iff_eq] at boundary
  obtain (((((rfl | rfl) | rfl) | rfl) | rfl) | rfl) | rfl := boundary <;> decide

theorem Bounded.head?_any_isDigit (bounded : Bounded rest) :
    rest.head?.any Char.isDigit = false := by
  cases rest with
  | nil => rfl
  | cons c rest => exact not_isDigit_of_isBoundary (bounded c rfl)

theorem Bounded.takeWhile_isDigit (bounded : Bounded rest) : rest.takeWhile Char.isDigit = [] := by
  cases rest with
  | nil => rfl
  | cons c rest =>
      rw [List.takeWhile_cons, not_isDigit_of_isBoundary (bounded c rfl)]
      rfl

/-- Digits that are followed by a bound are the whole number. -/
theorem run_numeralTail {negative : Bool} {n : Nat} (bounded : Bounded rest) :
    (numeralTail negative n 0).run rest = (wholeNumeral negative n).run rest := by
  cases rest with
  | nil => simp [numeralTail, isExponentMark]
  | cons c rest =>
      obtain ⟨notPoint, notExponent⟩ := not_point_of_isBoundary (bounded c rfl)
      simp [numeralTail, notPoint, notExponent]

/-! ## Digits -/

theorem le_ofDigitChars {start : Nat} : start ≤ Nat.ofDigitChars 10 text start := by
  rw [Nat.ofDigitChars_eq_ofDigitChars_zero]
  have power : start ≤ 10 ^ text.length * start :=
    Nat.le_mul_of_pos_left start (Nat.pow_pos (by decide))
  omega

/-- Digits whose number fits a significand are taken whole. -/
theorem extendSignificand_digits
    (value taken : Nat)
    (digits : ∀ c ∈ text, c.isDigit = true)
    (fits : Nat.ofDigitChars 10 text value ≤ significandLimit)
    (bounded : Bounded rest) :
    extendSignificand value taken (text ++ rest)
      = ⟨Nat.ofDigitChars 10 text value, taken + text.length, rest⟩ := by
  induction text generalizing value taken with
  | nil =>
      cases rest with
      | nil => simp [extendSignificand]
      | cons c rest => simp [extendSignificand, not_isDigit_of_isBoundary (bounded c rfl)]
  | cons c text inductionHypothesis =>
      have digit : c.isDigit = true := digits c List.mem_cons_self
      have extended : value * 10 + digitValue c = 10 * value + (c.toNat - '0'.toNat) := by
        rw [Nat.mul_comm, digitValue]
      rw [Nat.ofDigitChars_cons, ← extended] at fits
      have room : value * 10 + digitValue c ≤ significandLimit :=
        Nat.le_trans le_ofDigitChars fits
      rw [List.cons_append, extendSignificand, if_pos ⟨digit, room⟩,
        inductionHypothesis _ _ (fun c inside => digits c (List.mem_cons_of_mem _ inside)) fits,
        Nat.ofDigitChars_cons, ← extended, List.length_cons]
      congr 1
      omega

theorem toDigits_eq_cons (n : Nat) :
    ∃ c more, Nat.toDigits 10 n = c :: more ∧ c.isDigit = true := by
  obtain ⟨c, more, spelled⟩ := List.exists_cons_of_ne_nil (Nat.toDigits_ne_nil (n := n) (b := 10))
  have inside : c ∈ Nat.toDigits 10 n := spelled ▸ List.mem_cons_self
  exact ⟨c, more, spelled, Nat.isDigit_of_mem_toDigits (by decide) (by decide) inside⟩

/-- The digits of a positive number do not start with a zero. -/
theorem head?_toDigits {n : Nat} (positive : 0 < n) : (Nat.toDigits 10 n).head? ≠ some '0' := by
  induction n using Nat.base_induction 10 (by decide) with
  | single n small =>
      have all : ∀ n, n < 10 → 0 < n → (Nat.toDigits 10 n).head? ≠ some '0' := by decide
      exact all n small positive
  | digit n digit digitSmall leading inductionHypothesis =>
      obtain ⟨c, more, spelled, -⟩ := toDigits_eq_cons n
      have first := inductionHypothesis leading
      rw [← Nat.toDigits_append_toDigits (by decide) leading digitSmall, spelled]
      rw [spelled] at first
      exact first

/-! ## Integers -/

/-- The digits of a natural number of 64 bits are read as the number. -/
theorem run_numeral_toDigits
    (negative : Bool)
    {n : Nat}
    (fits : n ≤ significandLimit)
    (bounded : Bounded rest) :
    (numeral negative).run (Nat.toDigits 10 n ++ rest) = (wholeNumeral negative n).run rest := by
  by_cases zero : n = 0
  · subst zero
    simp [numeral, bounded.head?_any_isDigit, run_numeralTail bounded]
  · have notZero := head?_toDigits (Nat.pos_of_ne_zero zero)
    have digits : ∀ c ∈ Nat.toDigits 10 n, c.isDigit = true := fun c inside =>
      Nat.isDigit_of_mem_toDigits (by decide) (by decide) inside
    have taken := extendSignificand_digits 0 0 digits
      (by rwa [Nat.ofDigitChars_ten_toDigits]) bounded
    rw [Nat.ofDigitChars_ten_toDigits] at taken
    obtain ⟨c, more, spelled, digit⟩ := toDigits_eq_cons n
    rw [spelled] at notZero taken ⊢
    have notZero : c ≠ '0' := by simpa using notZero
    rw [List.cons_append] at taken ⊢
    simp [numeral, digit, taken, bounded.takeWhile_isDigit, run_numeralTail bounded]

theorem integerText_of_nonneg {value : Int} (nonneg : 0 ≤ value) :
    Value.integerText value = Nat.toDigits 10 value.toNat := by
  rw [Value.integerText, Int.toString_eq_repr, Int.repr_eq_if, if_pos nonneg, Nat.toList_repr]

theorem integerText_of_neg {value : Int} (negative : value < 0) :
    Value.integerText value = '-' :: Nat.toDigits 10 (-value).toNat := by
  rw [Value.integerText, Int.toString_eq_repr, Int.repr_eq_if,
    if_neg (Int.not_le.mpr negative), String.toList_append, Nat.toList_repr]
  rfl

/-- A number without a sign is itself. -/
theorem run_wholeNumeral_unsigned {n : Nat} :
    (wholeNumeral false n).run rest = .ok (.integer n, rest) :=
  rfl

/-- A number with a sign is negative, down to the least of 64 bits. -/
theorem run_wholeNumeral_signed {n : Nat} (range : 1 ≤ n ∧ n ≤ Nat.pow 2 63) :
    (wholeNumeral true n).run rest = .ok (.integer (-n), rest) := by
  rw [wholeNumeral, if_pos rfl, if_pos range]
  rfl

/-- A written integer is read as the integer, if it is asked for and fits
64 bits, signed or unsigned. -/
theorem reads_integer
    {least greatest value : Int}
    {expected : String}
    (inside : least ≤ value ∧ value ≤ greatest)
    (representable : Int64.minValue.toInt ≤ value ∧ value ≤ significandLimit) :
    Reads (integer least greatest expected) (Value.integer value).compact value := by
  intro rest bounded
  have lowest : Int64.minValue.toInt = -9223372036854775808 := rfl
  have highest : significandLimit = 18446744073709551615 := rfl
  by_cases nonneg : 0 ≤ value
  · have fits : value.toNat ≤ significandLimit := by omega
    have read := run_numeral_toDigits false fits bounded
    rw [run_wholeNumeral_unsigned, Int.toNat_of_nonneg nonneg] at read
    rw [Value.compact, integerText_of_nonneg nonneg]
    obtain ⟨c, more, spelled, digit⟩ := toDigits_eq_cons value.toNat
    have solid := isSpace_of_not_isBoundary (not_isBoundary_of_isDigit digit)
    have unsigned : c ≠ '-' := by
      rintro rfl
      exact absurd digit (by decide)
    rw [spelled, List.cons_append] at read ⊢
    simp [integer, solid, digit, unsigned, read, inside]
  · have negative : value < 0 := Int.not_le.mp nonneg
    have fits : (-value).toNat ≤ significandLimit := by omega
    have least : Nat.pow 2 63 = 9223372036854775808 := rfl
    have range : 1 ≤ (-value).toNat ∧ (-value).toNat ≤ Nat.pow 2 63 := by omega
    have magnitude : -((-value).toNat : Int) = value := by omega
    have read := run_numeral_toDigits true fits bounded
    rw [run_wholeNumeral_signed range, magnitude] at read
    rw [Value.compact, integerText_of_neg negative]
    simp [integer, isSpace, read, inside]

end Findings.Json
