import Findings.Proofs.Json.Outcome

/-!
Contract: a number in any spelling is read as an integer exactly if it is written
as one and is within bounds, and is passed over as a whole.

Owns:
- the readers that never give an integer, whatever they are given;
- the significand of a whole part of any length;
- numbers read, and numbers passed over.

Does not own: which binary64 value a number with a fraction or an exponent has,
and whether there is one.
-/

namespace Findings.Json

variable {text rest digits : List Char} {c : Char} {n dropped : Nat} {negative : Bool}

/-! ## Digits -/

/-- What follows digits does not start with one. -/
def NoDigit (rest : List Char) : Prop :=
  rest.head?.any Char.isDigit = false

theorem NoDigit.dropWhile_append (noDigit : NoDigit rest) (all : ∀ c ∈ digits, c.isDigit = true) :
    (digits ++ rest).dropWhile Char.isDigit = rest := by
  rw [List.dropWhile_append_of_pos all]
  cases rest with
  | nil => rfl
  | cons c rest =>
      have solid : c.isDigit = false := noDigit
      rw [List.dropWhile_cons, solid]
      rfl

theorem isDigit_of_mem_toDigits (inside : c ∈ Nat.toDigits 10 n) : c.isDigit = true :=
  Nat.isDigit_of_mem_toDigits (by decide) (by decide) inside

/-- Digits start with one, and behind them comes what follows them. -/
theorem Digits.front (digits : Digits) (noDigit : NoDigit rest) :
    ∃ c more, digits.chars ++ rest = c :: more ∧ c.isDigit = true
      ∧ (c :: more).dropWhile Char.isDigit = rest := by
  obtain ⟨c, more, spelled⟩ := List.exists_cons_of_ne_nil digits.nonempty
  have whole : digits.chars ++ rest = c :: (more ++ rest) := by rw [spelled, List.cons_append]
  have behind := noDigit.dropWhile_append digits.digits
  rw [whole] at behind
  exact ⟨c, more ++ rest, whole, digits.digits c (spelled ▸ List.mem_cons_self), behind⟩

/-- The digits of a number start with a zero only if they are a zero. -/
theorem toDigits_eq_zero_or (n : Nat) :
    n = 0 ∨ ∃ c more, Nat.toDigits 10 n = c :: more ∧ c.isDigit = true ∧ c ≠ '0' := by
  obtain ⟨c, more, spelled, digit⟩ := toDigits_eq_cons n
  rcases Nat.eq_zero_or_pos n with zero | positive
  · exact .inl zero
  · have notZero := head?_toDigits positive
    rw [spelled] at notZero
    exact .inr ⟨c, more, spelled, digit, by simpa using notZero⟩

/-! ## Behind the whole part -/

namespace NumberText

variable (number : NumberText)

theorem exponentText_noDigit (bounded : Bounded rest) :
    NoDigit (number.exponentText ++ rest) := by
  unfold exponentText
  split
  · simp only [List.cons_append, NoDigit, List.head?_cons, Option.any_some]
    split <;> decide
  · exact bounded.head?_any_isDigit

theorem fractionText_noDigit (bounded : Bounded rest) :
    NoDigit (number.fractionText ++ (number.exponentText ++ rest)) := by
  unfold fractionText
  split
  · simp only [List.cons_append, NoDigit, List.head?_cons, Option.any_some]
    decide
  · exact number.exponentText_noDigit bounded

/-- A number that is more than a whole part goes on with a point or with the
letter of an exponent. -/
theorem head?_of_fractional (rest : List Char)
    (fractional : number.fraction ≠ none ∨ number.exponent ≠ none) :
    (number.fractionText ++ (number.exponentText ++ rest)).head? = some '.'
      ∨ isExponentMark (number.fractionText ++ (number.exponentText ++ rest)).head? = true := by
  unfold fractionText exponentText
  cases fraction : number.fraction with
  | some digits => exact .inl rfl
  | none =>
      cases written : number.exponent with
      | none => simp [fraction, written] at fractional
      | some exponent =>
          right
          cases capital : exponent.capital <;> simp [capital, isExponentMark]

end NumberText

/-! ## Numbers that are no integers -/

/-- A reader of numbers that never gives an integer. -/
def NeverInteger (reader : Reader Numeral) : Prop :=
  ∀ text value rest, reader.run? text ≠ some (.integer value, rest)

theorem neverInteger_none {reader : Reader Numeral} (fails : ∀ text, reader.run? text = none) :
    NeverInteger reader := by
  intro text value rest read
  rw [fails] at read
  contradiction

theorem NeverInteger.bind {α : Type} {reader : Reader α} {next : α → Reader Numeral}
    (later : ∀ value, NeverInteger (next value)) : NeverInteger (reader >>= next) := by
  intro text value rest read
  rw [Reader.run?_bind] at read
  obtain ⟨⟨first, behind⟩, -, continued⟩ := Option.bind_eq_some_iff.mp read
  exact later first behind value rest continued

theorem NeverInteger.ite {condition : Prop} [Decidable condition] {first second : Reader Numeral}
    (left : NeverInteger first) (right : NeverInteger second) :
    NeverInteger (if condition then first else second) := by
  split
  · exact left
  · exact right

theorem neverInteger_floating {value : Decimal.Double} :
    NeverInteger (pure (.floating value) : Reader Numeral) := by
  intro text value rest read
  simp at read

theorem neverInteger_scaledNumeral {exponent : Int} :
    NeverInteger (scaledNumeral negative n exponent) := by
  unfold scaledNumeral
  split
  · exact neverInteger_floating
  · exact neverInteger_none fun _ => rfl

theorem neverInteger_exponentPart {shift : Int} : NeverInteger (exponentPart negative n shift) := by
  unfold exponentPart
  dsimp only
  refine .bind fun _ => .bind fun sign => .ite (.bind fun _ => ?_) ?_
  all_goals
    refine .bind fun text => ?_
    cases text with
    | nil => exact neverInteger_none fun _ => rfl
    | cons c more =>
        refine .ite ?_ (neverInteger_none fun _ => rfl)
        cases exponentDigits (digitValue c) more with
        | ok taken => exact .bind fun _ => neverInteger_scaledNumeral
        | error behind =>
            exact .bind fun _ =>
              .ite (neverInteger_none fun _ => rfl) (.bind fun _ => neverInteger_floating)

theorem neverInteger_fractionPart {shift : Int} : NeverInteger (fractionPart negative n shift) := by
  unfold fractionPart
  dsimp only
  refine .bind fun _ => .bind fun text => ?_
  split
  · exact neverInteger_none fun _ => rfl
  · refine .ite (neverInteger_none fun _ => rfl) ?_
    refine .bind fun _ => .bind fun _ => .bind fun next => ?_
    exact .ite neverInteger_exponentPart neverInteger_scaledNumeral

/-- A number that goes on behind its whole part, or whose whole part lost digits,
is no integer. -/
theorem run?_numeralTail_ne_integer
    {result : Int}
    {after : List Char}
    (more : rest.head? = some '.' ∨ isExponentMark rest.head? = true ∨ dropped ≠ 0) :
    (numeralTail negative n dropped).run? rest ≠ some (.integer result, after) := by
  simp only [numeralTail, Reader.run?_bind, Reader.run?_peek?, Option.bind_some, Reader.run?_ite]
  split
  · exact neverInteger_fractionPart _ _ _
  · rename_i noPoint
    split
    · exact neverInteger_exponentPart _ _ _
    · rename_i noExponent
      have lost : dropped ≠ 0 := by simpa [noPoint, noExponent] using more
      rw [if_neg lost]
      exact neverInteger_scaledNumeral _ _ _

/-! ## Whole parts -/

/-- A significand takes digits from the front; if it takes them all, it is their
number. -/
theorem extendSignificand_noDigit
    (value taken : Nat)
    (all : ∀ c ∈ digits, c.isDigit = true)
    (noDigit : NoDigit rest)
    (fits : value ≤ significandLimit) :
    (extendSignificand value taken (digits ++ rest)).rest.dropWhile Char.isDigit = rest
      ∧ ((extendSignificand value taken (digits ++ rest)).rest.takeWhile Char.isDigit = [] →
        (extendSignificand value taken (digits ++ rest)).value = Nat.ofDigitChars 10 digits value
          ∧ Nat.ofDigitChars 10 digits value ≤ significandLimit) := by
  induction digits generalizing value taken with
  | nil =>
      have stopped : extendSignificand value taken rest = ⟨value, taken, rest⟩ := by
        cases rest with
        | nil => rfl
        | cons c rest =>
            have solid : c.isDigit = false := noDigit
            simp [extendSignificand, solid]
      have whole := noDigit.dropWhile_append (List.forall_mem_nil _)
      simpa [stopped, fits] using whole
  | cons c digits inductionHypothesis =>
      have digit : c.isDigit = true := all c List.mem_cons_self
      have later : ∀ c ∈ digits, c.isDigit = true := fun c inside =>
        all c (List.mem_cons_of_mem _ inside)
      have extended : value * 10 + digitValue c = 10 * value + (c.toNat - '0'.toNat) := by
        rw [Nat.mul_comm, digitValue]
      rw [List.cons_append, extendSignificand]
      by_cases room : value * 10 + digitValue c ≤ significandLimit
      · rw [if_pos ⟨digit, room⟩, Nat.ofDigitChars_cons, ← extended]
        exact inductionHypothesis _ _ later room
      · rw [if_neg fun taken => room taken.2]
        constructor
        · exact noDigit.dropWhile_append all
        · intro none
          rw [List.takeWhile_cons, digit] at none
          contradiction

theorem drop_length_takeWhile {p : Char → Bool} :
    text.drop (text.takeWhile p).length = text.dropWhile p := by
  have whole : text.takeWhile p ++ text.dropWhile p = text := List.takeWhile_append_dropWhile
  calc text.drop (text.takeWhile p).length
      = (text.takeWhile p ++ text.dropWhile p).drop (text.takeWhile p).length := by rw [whole]
    _ = text.dropWhile p := List.drop_left

/-- The digits of a number are taken, and unless some of them are lost the number
is kept and fits 64 bits. -/
theorem run?_numeral_toDigits (negative : Bool) (n : Nat) (noDigit : NoDigit rest) :
    ∃ kept dropped,
      (numeral negative).run? (Nat.toDigits 10 n ++ rest)
        = (numeralTail negative kept dropped).run? rest
      ∧ (dropped = 0 → kept = n ∧ n ≤ significandLimit) := by
  rcases toDigits_eq_zero_or n with rfl | ⟨c, more, spelled, digit, notZero⟩
  · -- a zero in front is the whole part, whatever follows
    refine ⟨0, 0, ?_, fun _ => ⟨rfl, Nat.zero_le _⟩⟩
    have single : Nat.toDigits 10 0 = ['0'] := by decide
    unfold NoDigit at noDigit
    simp [single, numeral, noDigit]
  · obtain ⟨behind, kept⟩ := extendSignificand_noDigit 0 0
      (fun c inside => isDigit_of_mem_toDigits (n := n) inside) noDigit (Nat.zero_le _)
    rw [Nat.ofDigitChars_ten_toDigits] at kept
    refine ⟨_, _, ?_, fun none => kept (List.length_eq_zero_iff.mp none)⟩
    rw [spelled, List.cons_append] at behind ⊢
    rw [← drop_length_takeWhile] at behind
    simp [numeral, digit, behind]

def integerRead? : Option (Numeral × List Char) → Option (Int × List Char)
  | some (.integer value, rest) => some (value, rest)
  | _ => none

theorem integerRead?_eq_none {read : Option (Numeral × List Char)}
    (never : ∀ value after, read ≠ some (.integer value, after)) : integerRead? read = none := by
  unfold integerRead?
  split
  · exact absurd rfl (never _ _)
  · rfl

/-- The integers that 64 bits hold, signed or unsigned. -/
def InSixtyFour (value : Int) : Prop :=
  Int64.minValue.toInt ≤ value ∧ value ≤ significandLimit

instance (value : Int) : Decidable (InSixtyFour value) :=
  inferInstanceAs (Decidable (_ ∧ _))

theorem inSixtyFour_iff {value : Int} :
    InSixtyFour value ↔ -9223372036854775808 ≤ value ∧ value ≤ 18446744073709551615 :=
  Iff.rfl

theorem integerRead?_wholeNumeral (number : NumberText) (plain : number.fraction = none)
    (simple : number.exponent = none) (fits : number.whole ≤ significandLimit) :
    integerRead? ((wholeNumeral number.negative number.whole).run? rest)
      = (number.integer?.filter InSixtyFour).map fun value => (value, rest) := by
  have highest : significandLimit = 18446744073709551615 := rfl
  have least : Nat.pow 2 63 = 9223372036854775808 := rfl
  obtain ⟨negative, whole, fraction, exponent⟩ := number
  obtain rfl : fraction = none := plain
  obtain rfl : exponent = none := simple
  dsimp only at fits ⊢
  cases negative with
  | false =>
      have inside : InSixtyFour whole := inSixtyFour_iff.mpr (by omega)
      simp only [wholeNumeral, integerRead?, NumberText.integer?, Reader.run?_pure, if_false,
        Option.filter_some, inside, decide_true, Option.map_some, if_true, Bool.false_eq_true]
  | true =>
      by_cases range : 1 ≤ whole ∧ whole ≤ Nat.pow 2 63
      · obtain ⟨less, rfl⟩ := Nat.exists_eq_add_one_of_ne_zero (Nat.ne_zero_of_lt range.1)
        have inside : InSixtyFour (-(less + 1 : Nat)) := inSixtyFour_iff.mpr (by omega)
        simp only [wholeNumeral, if_pos range, integerRead?, NumberText.integer?, Reader.run?_pure,
          if_true, Option.filter_some, inside, decide_true, Option.map_some]
      · have never : integerRead? ((wholeNumeral true whole).run? rest) = none := by
          rw [wholeNumeral, if_pos rfl, if_neg range]
          exact integerRead?_eq_none fun _ _ => neverInteger_scaledNumeral _ _ _
        rw [never]
        cases whole with
        | zero => rfl
        | succ less =>
            have outside : ¬ InSixtyFour (-(less + 1 : Nat)) := by
              rw [inSixtyFour_iff]
              omega
            simp only [NumberText.integer?, Option.filter_some, outside, decide_false,
              Option.map_none, if_false, Bool.false_eq_true]

theorem integer?_of_fractional {number : NumberText}
    (fractional : number.fraction ≠ none ∨ number.exponent ≠ none) : number.integer? = none := by
  unfold NumberText.integer?
  split
  · simp_all
  · simp_all
  · rfl

theorem natAbs_integer? {number : NumberText} {value : Int} (written : number.integer? = some value) :
    value.natAbs = number.whole := by
  unfold NumberText.integer? at written
  split at written
  · obtain rfl := Option.some.inj written
    simp_all
  · obtain rfl := Option.some.inj written
    simp_all
    omega
  · contradiction

/-- A number that is too long for a significand is not held by 64 bits. -/
theorem filter_inSixtyFour_of_long {number : NumberText} (long : significandLimit < number.whole) :
    number.integer?.filter InSixtyFour = none := by
  have highest : significandLimit = 18446744073709551615 := rfl
  rw [Option.filter_eq_none_iff]
  intro value written inside
  have magnitude := natAbs_integer? written
  have bounds := inSixtyFour_iff.mp (of_decide_eq_true inside)
  omega

/-- A number is taken for an integer exactly if it is written as one that 64 bits
hold, signed or unsigned. -/
theorem integerRead?_numeral (number : NumberText) (bounded : Bounded rest) :
    integerRead? ((numeral number.negative).run? (number.magnitudeText ++ rest))
      = (number.integer?.filter InSixtyFour).map fun value => (value, rest) := by
  obtain ⟨kept, dropped, read, whole⟩ :=
    run?_numeral_toDigits number.negative number.whole (number.fractionText_noDigit bounded)
  have spelled : number.magnitudeText ++ rest = Nat.toDigits 10 number.whole
      ++ (number.fractionText ++ (number.exponentText ++ rest)) := by
    simp [NumberText.magnitudeText]
  by_cases fractional : number.fraction ≠ none ∨ number.exponent ≠ none
  · have more := number.head?_of_fractional rest fractional
    rw [spelled, read,
      integerRead?_eq_none fun _ _ => run?_numeralTail_ne_integer (more.imp_right .inl),
      integer?_of_fractional fractional]
    rfl
  · obtain ⟨plain, simple⟩ : number.fraction = none ∧ number.exponent = none := by
      simpa using fractional
    by_cases fits : number.whole ≤ significandLimit
    · have taken := run_numeral_toDigits number.negative fits bounded
      rw [← integerRead?_wholeNumeral number plain simple fits, Reader.run?, Reader.run?, ← taken,
        spelled]
      simp [NumberText.fractionText, NumberText.exponentText, plain, simple]
    · have lost : dropped ≠ 0 := fun none => fits (whole none).2
      rw [spelled, read,
        integerRead?_eq_none fun _ _ => run?_numeralTail_ne_integer (.inr (.inr lost)),
        filter_inSixtyFour_of_long (Nat.lt_of_not_le fits)]
      rfl

/-! ## Numbers, read and passed over -/

/-- An integer is asked for, and a number is there. -/
theorem run?_integer_text
    {least greatest : Int}
    {expected : String}
    (number : NumberText) :
    (integer least greatest expected).run? (number.text ++ rest)
      = (integerRead? ((numeral number.negative).run? (number.magnitudeText ++ rest))).bind
        fun read => if least ≤ read.1 ∧ read.1 ≤ greatest then some read else none := by
  obtain ⟨c, more, spelled, digit⟩ := number.magnitudeText_eq_cons
  have solid := isSpace_of_not_isBoundary (not_isBoundary_of_isDigit digit)
  have unsigned : c ≠ '-' := by
    rintro rfl
    exact absurd digit (by decide)
  generalize taken : (numeral number.negative).run? (number.magnitudeText ++ rest) = read
  cases sign : number.negative with
  | true =>
      rw [sign] at taken
      have text : number.text ++ rest = '-' :: (number.magnitudeText ++ rest) := by
        simp [NumberText.text, sign]
      rw [text]
      rcases read with _ | ⟨⟨value⟩ | ⟨value⟩, after⟩ <;>
        simp [integer, isSpace, taken, integerRead?]
  | false =>
      rw [sign, spelled, List.cons_append] at taken
      have text : number.text ++ rest = c :: (more ++ rest) := by
        simp [NumberText.text, sign, spelled]
      rw [text]
      rcases read with _ | ⟨⟨value⟩ | ⟨value⟩, after⟩ <;>
        simp [integer, solid, unsigned, digit, taken, integerRead?]

/-- A number is read as an integer exactly if it is written as one that is within
the bounds. -/
theorem decides_integer
    {least greatest : Int}
    {expected : String}
    (number : NumberText)
    (representable : Int64.minValue.toInt ≤ least ∧ greatest ≤ significandLimit) :
    Decides (integer least greatest expected) number.text
      (number.integer?.filter fun value => least ≤ value ∧ value ≤ greatest) := by
  intro rest bounded
  rw [run?_integer_text, integerRead?_numeral number bounded]
  cases written : number.integer? with
  | none => rfl
  | some value =>
      by_cases inside : least ≤ value ∧ value ≤ greatest
      · have held : InSixtyFour value := by
          unfold InSixtyFour
          omega
        simp [Option.filter_some, held, inside]
      · by_cases held : InSixtyFour value <;> simp [Option.filter_some, held, inside]

theorem run?_skipExponent (exponent : ExponentText) (bounded : Bounded rest) (mark : Char) :
    skipExponent.run? (mark :: (exponent.sign.text ++ (exponent.digits.chars ++ rest)))
      = some ((), rest) := by
  obtain ⟨c, more, spelled, digit, behind⟩ := exponent.digits.front bounded.head?_any_isDigit
  have notSign : c ≠ '+' ∧ c ≠ '-' := by
    constructor <;> rintro rfl <;> exact absurd digit (by decide)
  rw [spelled]
  cases exponent.sign <;> simp [skipExponent, ExponentSign.text, notSign, digit, behind]

def skipAnyExponent : Reader Unit := do
  if isExponentMark (← Reader.peek?) then
    skipExponent

def skipBehindWhole : Reader Unit := do
  if (← Reader.peek?) = some '.' then
    Reader.skipOne
    if (← Reader.peek?).any Char.isDigit then
      skipDigits
    else
      Reader.failAtNext .invalidNumber
  skipAnyExponent

theorem run?_skipNumeral_zero (noDigit : NoDigit rest) :
    skipNumeral.run? ('0' :: rest) = skipBehindWhole.run? rest := by
  cases rest with
  | nil => rfl
  | cons c rest =>
      have solid : c.isDigit = false := noDigit
      simp only [skipNumeral, skipBehindWhole, skipAnyExponent, Reader.run?_bind, Reader.run?_peek?,
        Reader.run?_skipOne, Reader.run?_ite, Option.bind_some, List.head?_cons, List.tail_cons,
        Option.any_some, solid, if_true, if_false, Bool.false_eq_true]
      rfl

theorem run?_skipNumeral_digits (digit : c.isDigit = true) (notZero : c ≠ '0') :
    skipNumeral.run? (c :: text) = skipBehindWhole.run? ((c :: text).dropWhile Char.isDigit) := by
  simp [skipNumeral, skipBehindWhole, skipAnyExponent, digit, notZero]

theorem run?_skipAnyExponent (number : NumberText) (bounded : Bounded rest) :
    skipAnyExponent.run? (number.exponentText ++ rest) = some ((), rest) := by
  unfold NumberText.exponentText
  cases number.exponent with
  | none =>
      cases rest with
      | nil => rfl
      | cons c rest =>
          have notExponent := (not_point_of_isBoundary (bounded c rfl)).2
          simp [skipAnyExponent, notExponent]
  | some exponent =>
      have mark : isExponentMark (some (if exponent.capital then 'E' else 'e')) = true := by
        cases exponent.capital <;> rfl
      simp only [skipAnyExponent, List.cons_append, List.append_assoc, Reader.run?_bind,
        Reader.run?_peek?, Option.bind_some, List.head?_cons, Reader.run?_ite, mark, if_true,
        run?_skipExponent exponent bounded]

theorem NumberText.exponentText_noPoint (number : NumberText) (bounded : Bounded rest) :
    (number.exponentText ++ rest).head? ≠ some '.' := by
  unfold exponentText
  cases number.exponent with
  | none =>
      cases rest with
      | nil => simp
      | cons c rest => simp [(not_point_of_isBoundary (bounded c rfl)).1]
  | some exponent => cases capital : exponent.capital <;> simp [capital]

theorem run?_skipBehindWhole (number : NumberText) (bounded : Bounded rest) :
    skipBehindWhole.run? (number.fractionText ++ (number.exponentText ++ rest))
      = some ((), rest) := by
  have noPoint := number.exponentText_noPoint bounded
  have noDigit := number.exponentText_noDigit bounded
  have exponent := run?_skipAnyExponent number bounded
  generalize number.exponentText ++ rest = later at *
  unfold NumberText.fractionText
  cases number.fraction with
  | none => simpa [skipBehindWhole, noPoint] using exponent
  | some digits =>
      obtain ⟨c, more, spelled, digit, behind⟩ := digits.front noDigit
      rw [List.cons_append, spelled]
      simpa [skipBehindWhole, digit, behind] using exponent

theorem run?_skipNumeral (number : NumberText) (bounded : Bounded rest) :
    skipNumeral.run? (number.magnitudeText ++ rest) = some ((), rest) := by
  have noDigit := number.fractionText_noDigit bounded
  rw [NumberText.magnitudeText, List.append_assoc, List.append_assoc]
  rcases toDigits_eq_zero_or number.whole with zero | ⟨c, more, spelled, digit, notZero⟩
  · have single : Nat.toDigits 10 0 = ['0'] := by decide
    rw [zero, single, List.singleton_append, run?_skipNumeral_zero noDigit,
      run?_skipBehindWhole number bounded]
  · have behind := noDigit.dropWhile_append
      fun c inside => isDigit_of_mem_toDigits (n := number.whole) inside
    rw [spelled, List.cons_append] at behind ⊢
    rw [run?_skipNumeral_digits digit notZero, behind, run?_skipBehindWhole number bounded]

end Findings.Json
