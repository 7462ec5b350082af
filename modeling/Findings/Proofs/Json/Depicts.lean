import Mathlib
import Findings.Proofs.Json.NumberText
import Findings.Proofs.Json.Spelled

/-!
Contract: every text that is taken for a string or a number is one.

Owns:
- `Depicts`, the grammar of documents as a relation between texts and trees, in
  which a surrogate may stand alone inside a string;
- the strings and the numbers that the readers of scalars take, whether they are
  read or passed over.

Does not own: lists and objects.  A reader of strings takes no surrogate that
stands alone; only what is passed over may hold one.
-/

namespace Findings.Json

/-! ## The grammar -/

def isSurrogate (unit : Nat) : Prop :=
  isLeading unit = true ∨ isTrailing unit = true

/-- A character of a string as it is written, or half of one that nothing is
joined to. -/
inductive WrittenChar where
  | whole (spelled : SpelledChar)
  | half (unit : Nat) (surrogate : isSurrogate unit) (capital : Fin 4 → Bool)

/-- Half of a character stands for U+FFFD. -/
def WrittenChar.char : WrittenChar → Char
  | whole spelled => spelled.char
  | half _ _ _ => '\ufffd'

def WrittenChar.text : WrittenChar → List Char
  | whole spelled => spelled.text
  | half unit _ capital => hexEscape unit capital

def writtenString (written : List WrittenChar) : String :=
  String.ofList (written.map WrittenChar.char)

def writtenText (written : List WrittenChar) : List Char :=
  '"' :: written.flatMap WrittenChar.text ++ ['"']

/-- A piece of text with the tree that it depicts, inside a list. -/
structure DepictedElement where
  before : Space
  piece : List Char
  tree : Tree
  after : Space

def DepictedElement.text (element : DepictedElement) : List Char :=
  element.before.chars ++ (element.piece ++ element.after.chars)

/-- A piece of text with the tree that it depicts, behind its name in an object. -/
structure DepictedMember where
  before : Space
  name : List WrittenChar
  beforeColon : Space
  afterColon : Space
  piece : List Char
  tree : Tree
  after : Space

namespace DepictedMember

def text (member : DepictedMember) : List Char :=
  member.before.chars ++ (writtenText member.name ++ (member.beforeColon.chars
    ++ ':' :: (member.afterColon.chars ++ (member.piece ++ member.after.chars))))

def entry (member : DepictedMember) : String × Tree :=
  (writtenString member.name, member.tree)

end DepictedMember

/-- A piece of text is a document that says what a tree is. -/
inductive Depicts : List Char → Tree → Prop
  | null : Depicts ['n', 'u', 'l', 'l'] .null
  | yes : Depicts ['t', 'r', 'u', 'e'] (.boolean true)
  | no : Depicts ['f', 'a', 'l', 's', 'e'] (.boolean false)
  | number (number : NumberText) : Depicts number.text (.number number)
  | text (written : List WrittenChar) :
      Depicts (writtenText written) (.text (writtenString written))
  | list (space : Space) (elements : List DepictedElement)
      (each : ∀ element ∈ elements, Depicts element.piece element.tree) :
      Depicts ('[' :: (space.chars ++ commaJoined (elements.map DepictedElement.text)) ++ [']'])
        (.list (elements.map DepictedElement.tree))
  | object (space : Space) (members : List DepictedMember)
      (each : ∀ member ∈ members, Depicts member.piece member.tree) :
      Depicts ('\x7b' :: (space.chars ++ commaJoined (members.map DepictedMember.text)) ++ ['\x7d'])
        (.object (members.map DepictedMember.entry))

variable {text rest : List Char} {c : Char} {n : Nat}

/-! ## White space and literal names -/

/-- White space in front of a text, and what follows it. -/
theorem exists_space (text : List Char) :
    ∃ space : Space, text = space.chars ++ text.dropWhile isSpace := by
  refine ⟨⟨text.takeWhile isSpace, fun c inside => List.mem_takeWhile_imp inside⟩, ?_⟩
  exact List.takeWhile_append_dropWhile.symm

/-- A reader that passes white space over goes on with what follows it. -/
theorem of_skipSpace {β : Type} {next : Option Char → Reader β} {result : β × List Char}
    (taken : (skipSpace >>= fun _ => Reader.peek? >>= next).run? text = some result) :
    ∃ (space : Space) (front : List Char),
      text = space.chars ++ front ∧ (next front.head?).run? front = some result := by
  obtain ⟨space, spelled⟩ := exists_space text
  refine ⟨space, _, spelled, ?_⟩
  simpa only [Reader.run?_bind, Reader.run?_skipSpace, Reader.run?_peek?, Option.bind_some]
    using taken

/-- A literal name is taken only where it stands. -/
theorem eq_of_run?_literalRest {name : List Char}
    (taken : (literalRest name).run? text = some ((), rest)) : text = name ++ rest := by
  induction name generalizing text with
  | nil =>
      obtain rfl : text = rest := by simpa [literalRest] using taken
      rfl
  | cons expected name inductionHypothesis =>
      cases text with
      | nil => simp [literalRest] at taken
      | cons c text =>
          simp only [literalRest, Reader.run?_bind, Reader.run?_peek?, Option.bind_some,
            List.head?_cons, Reader.run?_ite, Reader.run?_skipOne, List.tail_cons,
            Reader.run?_failAtNext, Option.ite_none_right_eq_some] at taken
          obtain ⟨rfl, later⟩ := taken
          rw [inductionHypothesis later, List.cons_append]

/-! ## Strings -/

/-- A hexadecimal digit is a small or a capital one of its value. -/
theorem exists_hexDigitOf (value : hexValue? c = some n) :
    n < 16 ∧ ∃ capital, c = hexDigitOf n capital := by
  have all : ∀ code < 128, ∀ n ∈ hexValue? (Char.ofNat code),
      n < 16 ∧ ∃ capital, Char.ofNat code = hexDigitOf n capital := by
    decide
  have small : c.toNat < 128 := by
    have below {last : Char} (ascii : last.toNat < 128) (le : c ≤ last) : c.toNat < 128 :=
      Nat.lt_of_le_of_lt (UInt32.le_iff_toNat_le.mp le) ascii
    unfold hexValue? at value
    split at value
    · rename_i range
      exact below (by decide) range.2
    split at value
    · rename_i range
      exact below (by decide) range.2
    split at value
    · rename_i range
      exact below (by decide) range.2
    · contradiction
  have known := all c.toNat small n
  rw [Char.ofNat_toNat] at known
  exact known value

/-- Four hexadecimal digits are those of their value. -/
theorem eq_of_fourHex (value : fourHex text = .ok n) :
    n < 0x10000 ∧ ∃ capital rest, text = hexDigits n capital ++ rest := by
  have given : fourHexValue? text = some n := by
    unfold fourHex at value
    split at value
    · rename_i known
      rwa [Except.ok.inj value] at known
    · split at value <;> contradiction
  rcases text with _ | ⟨a, _ | ⟨b, _ | ⟨c, _ | ⟨d, rest⟩⟩⟩⟩ <;> try contradiction
  simp only [fourHexValue?, Option.bind_eq_bind, Option.bind_eq_some_iff, Option.some.injEq] at given
  obtain ⟨first, firstValue, second, secondValue, third, thirdValue, fourth, fourthValue, rfl⟩ :=
    given
  obtain ⟨firstSmall, firstCapital, rfl⟩ := exists_hexDigitOf firstValue
  obtain ⟨secondSmall, secondCapital, rfl⟩ := exists_hexDigitOf secondValue
  obtain ⟨thirdSmall, thirdCapital, rfl⟩ := exists_hexDigitOf thirdValue
  obtain ⟨fourthSmall, fourthCapital, rfl⟩ := exists_hexDigitOf fourthValue
  let whole := ((first * 16 + second) * 16 + third) * 16 + fourth
  have places : whole / 0x1000 % 0x10 = first ∧ whole / 0x100 % 0x10 = second
      ∧ whole / 0x10 % 0x10 = third ∧ whole % 0x10 = fourth := by
    omega
  refine ⟨by omega, ![firstCapital, secondCapital, thirdCapital, fourthCapital], rest, ?_⟩
  obtain ⟨one, two, three, four⟩ := places
  simp only [whole] at one two three four
  simp [hexDigits, one, two, three, four]

theorem mem_shortEscapes {letter : Char} (known : unescapeLetter? letter = some c) :
    (letter, c) ∈ shortEscapes := by
  unfold unescapeLetter? at known
  split at known
  · rename_i plain
    obtain rfl := Option.some.inj known
    rcases plain with rfl | rfl | rfl <;> decide
  · repeat
      split at known
      · rename_i named
        obtain rfl := Option.some.inj known
        subst named
        decide
    contradiction

theorem toNat_ofNat (small : n < 0x110000) (whole : ¬ isSurrogate n) : (Char.ofNat n).toNat = n := by
  have valid : n.isValidChar := by
    rw [isSurrogate, isLeading_iff, isTrailing_iff] at whole
    simp only [Nat.isValidChar]
    omega
  rw [Char.toNat_ofNat, if_pos valid]

/-- The halves of a character are its surrogates. -/
theorem units_pairChar {leading trailing : Nat} (leads : isLeading leading = true)
    (trails : isTrailing trailing = true) :
    0x10000 ≤ (pairChar leading trailing).toNat
      ∧ leadingUnit (pairChar leading trailing) = leading
      ∧ trailingUnit (pairChar leading trailing) = trailing := by
  rw [isLeading_iff] at leads
  rw [isTrailing_iff] at trails
  have code : (pairChar leading trailing).toNat
      = (leading - 0xD800) * 0x400 + (trailing - 0xDC00) + 0x10000 := by
    apply toNat_ofNat
    · omega
    · rw [isSurrogate, isLeading_iff, isTrailing_iff]
      omega
  rw [leadingUnit, trailingUnit, code]
  omega

theorem exists_trailing {leading : Nat}
    (joined : trailingSurrogate leading text = .ok c) :
    ∃ trailing capital rest, isTrailing trailing = true
      ∧ c = pairChar leading trailing ∧ text = hexEscape trailing capital ++ rest := by
  unfold trailingSurrogate at joined
  split at joined
  · contradiction
  · contradiction
  · rename_i digits
    cases value : fourHex digits with
    | error fault => simp [value, bind, Except.bind] at joined
    | ok trailing =>
        simp only [value, ok_bind] at joined
        split at joined
        · rename_i trails
          obtain ⟨-, capital, rest, rfl⟩ := eq_of_fourHex value
          exact ⟨trailing, capital, rest, trails, (Except.ok.inj joined).symm, rfl⟩
        · contradiction
  · contradiction
  · contradiction

/-- What is taken for an escape spells the character that it is taken for. -/
theorem exists_spelled {escape : Unescaped} (taken : unescape text = .ok escape) :
    ∃ spelled : SpelledChar, spelled.char = escape.char
      ∧ '\\' :: text = spelled.text ++ text.drop escape.taken := by
  unfold unescape at taken
  split at taken
  · contradiction
  · rename_i digits
    cases value : fourHex digits with
    | error fault => simp [value, bind, Except.bind] at taken
    | ok unit =>
        obtain ⟨small, capital, rest, rfl⟩ := eq_of_fourHex value
        simp only [value, ok_bind, drop_hexDigits] at taken
        split at taken
        · contradiction
        rename_i notTrailing
        split at taken
        · rename_i leads
          cases joined : trailingSurrogate unit rest with
          | error fault => simp [joined, bind, Except.bind] at taken
          | ok c =>
              simp only [joined, ok_bind, pure_eq_ok, Except.ok.injEq] at taken
              obtain rfl := taken
              obtain ⟨trailing, second, behind, trails, pair, spelled⟩ := exists_trailing joined
              obtain ⟨large, first, last⟩ := units_pairChar leads trails
              rw [← pair] at large first last
              refine ⟨.pair c large capital second, rfl, ?_⟩
              rw [SpelledChar.text, first, last, spelled]
              simp [hexEscape, hexDigits]
        · rename_i notLeading
          obtain rfl := Except.ok.inj taken
          have whole : ¬ isSurrogate unit := by simp_all [isSurrogate]
          have code := toNat_ofNat (Nat.lt_trans small (by decide)) whole
          refine ⟨.unit (Char.ofNat unit) (code.symm ▸ small) capital, rfl, ?_⟩
          rw [SpelledChar.text, code]
          simp [hexEscape, hexDigits]
  · rename_i letter rest _
    split at taken
    · rename_i c known
      obtain rfl := Except.ok.inj taken
      exact ⟨.short letter c (mem_shortEscapes known), rfl, rfl⟩
    · contradiction

/-- What is read as a string spells the string. -/
theorem exists_spelled_of_stringBody {read chars : List Char}
    (taken : stringBody read text = .ok (chars, rest)) :
    ∃ spelled : List SpelledChar, chars = read.reverse ++ spelled.map SpelledChar.char
      ∧ text = spelled.flatMap SpelledChar.text ++ '"' :: rest := by
  fun_induction stringBody read text with
  | case1 => contradiction
  | case2 read rest =>
      obtain ⟨rfl, rfl⟩ := Prod.mk.inj (Except.ok.inj taken)
      exact ⟨[], by simp, rfl⟩
  | case3 => contradiction
  | case4 read behind escape known _ inductionHypothesis =>
      obtain ⟨first, char, front⟩ := exists_spelled known
      obtain ⟨spelled, rfl, later⟩ := inductionHypothesis taken
      refine ⟨first :: spelled, by simp [char], ?_⟩
      rw [front, later, List.flatMap_cons, List.append_assoc]
  | case5 => contradiction
  | case6 read c behind notQuote notBackslash shown inductionHypothesis =>
      obtain ⟨spelled, rfl, rfl⟩ := inductionHypothesis taken
      exact ⟨.plain c ⟨shown, notQuote, notBackslash⟩ :: spelled, by simp [SpelledChar.char], rfl⟩

theorem exists_written_of_escapeExtent {taken : Nat} (extent : escapeExtent text = .ok taken) :
    ∃ written : WrittenChar, '\\' :: text = written.text ++ text.drop taken := by
  unfold escapeExtent at extent
  split at extent
  · contradiction
  · rename_i digits
    cases value : fourHex digits with
    | error fault => simp [value, bind, Except.bind] at extent
    | ok unit =>
        obtain ⟨small, capital, rest, rfl⟩ := eq_of_fourHex value
        simp only [value, ok_bind, pure_eq_ok, Except.ok.injEq] at extent
        obtain rfl := extent
        by_cases surrogate : isSurrogate unit
        · exact ⟨.half unit surrogate capital, by simp [WrittenChar.text, hexEscape, hexDigits]⟩
        · have code := toNat_ofNat (Nat.lt_trans small (by decide)) surrogate
          refine ⟨.whole (.unit (Char.ofNat unit) (code.symm ▸ small) capital), ?_⟩
          rw [WrittenChar.text, SpelledChar.text, code]
          simp [hexEscape, hexDigits]
  · rename_i letter rest _
    split at extent
    · rename_i c known
      obtain rfl := Except.ok.inj extent
      exact ⟨.whole (.short letter c (mem_shortEscapes known)), rfl⟩
    · contradiction

/-- What is passed over as a string is one, but for surrogates that stand alone. -/
theorem exists_written_of_skipStringBody (taken : skipStringBody text = .ok rest) :
    ∃ written : List WrittenChar, text = written.flatMap WrittenChar.text ++ '"' :: rest := by
  fun_induction skipStringBody text with
  | case1 => contradiction
  | case2 behind =>
      obtain rfl := Except.ok.inj taken
      exact ⟨[], rfl⟩
  | case3 => contradiction
  | case4 behind extent known _ inductionHypothesis =>
      obtain ⟨first, front⟩ := exists_written_of_escapeExtent known
      obtain ⟨written, later⟩ := inductionHypothesis taken
      refine ⟨first :: written, ?_⟩
      rw [front, later, List.flatMap_cons, List.append_assoc]
  | case5 => contradiction
  | case6 c behind notQuote notBackslash shown inductionHypothesis =>
      obtain ⟨written, rfl⟩ := inductionHypothesis taken
      exact ⟨.whole (.plain c ⟨shown, notQuote, notBackslash⟩) :: written, rfl⟩

theorem exists_spelled_of_stringRest (text : List Char) {value : String}
    (taken : stringRest.run? text = some (value, rest)) :
    ∃ spelled : List SpelledChar, value = spelledString spelled
      ∧ text = spelled.flatMap SpelledChar.text ++ '"' :: rest := by
  cases body : stringBody [] text with
  | error fault => simp [stringRest, body, Except.toOption, bind, Except.bind] at taken
  | ok result =>
      obtain ⟨chars, behind⟩ := result
      obtain ⟨rfl, rfl⟩ : String.ofList chars = value ∧ behind = rest := by
        simpa [stringRest, body, Except.toOption] using taken
      obtain ⟨spelled, rfl, whole⟩ := exists_spelled_of_stringBody body
      exact ⟨spelled, rfl, whole⟩

theorem exists_written_of_skipStringRest (taken : skipStringRest.run? text = some ((), rest)) :
    ∃ written : List WrittenChar, text = written.flatMap WrittenChar.text ++ '"' :: rest := by
  cases body : skipStringBody text with
  | error fault => simp [skipStringRest, body, Except.toOption, bind, Except.bind] at taken
  | ok behind =>
      obtain rfl : behind = rest := by simpa [skipStringRest, body, Except.toOption] using taken
      exact exists_written_of_skipStringBody body

/-! ## Numbers -/

theorem ofNat_digit (digit : c.isDigit = true) :
    c.toNat - '0'.toNat < 10 ∧ Nat.toDigits 10 (c.toNat - '0'.toNat) = [c] := by
  have all : ∀ code < 128, (Char.ofNat code).isDigit = true →
      (Char.ofNat code).toNat - '0'.toNat < 10
        ∧ Nat.toDigits 10 ((Char.ofNat code).toNat - '0'.toNat) = [Char.ofNat code] := by
    decide
  have range : 48 ≤ c.toNat ∧ c.toNat ≤ 57 := by
    simpa [Char.isDigit, UInt32.le_iff_toNat_le] using digit
  have known := all c.toNat (by omega)
  rw [Char.ofNat_toNat] at known
  exact known digit

/-- Digits without a needless zero are those of their number. -/
theorem toDigits_ofDigitChars {digits : List Char} (all : ∀ c ∈ digits, c.isDigit = true)
    (nonempty : digits ≠ []) (notZero : digits.head? ≠ some '0') :
    0 < Nat.ofDigitChars 10 digits 0 ∧ Nat.toDigits 10 (Nat.ofDigitChars 10 digits 0) = digits := by
  induction digits using List.reverseRecOn with
  | nil => exact absurd rfl nonempty
  | append_singleton front last inductionHypothesis =>
      have digit := ofNat_digit (all last (by simp))
      have grown : Nat.ofDigitChars 10 (front ++ [last]) 0
          = 10 * Nat.ofDigitChars 10 front 0 + (last.toNat - '0'.toNat) := by
        simp only [Nat.ofDigitChars_append, Nat.ofDigitChars_cons, Nat.ofDigitChars_nil]
      rw [grown]
      generalize last.toNat - '0'.toNat = value at digit
      obtain ⟨small, single⟩ := digit
      cases front with
      | nil =>
          have positive : value ≠ 0 := by
            rintro rfl
            exact notZero (by simpa using single.symm)
          exact ⟨by simpa [Nat.pos_iff_ne_zero] using positive, by simpa using single⟩
      | cons first more =>
          obtain ⟨positive, spelled⟩ := inductionHypothesis
            (fun c inside => all c (List.mem_append_left _ inside)) (List.cons_ne_nil _ _) notZero
          refine ⟨by omega, ?_⟩
          rw [← Nat.toDigits_append_toDigits (by decide) positive small, spelled, single]

theorem exists_digits (digit : c.isDigit = true) (text : List Char) :
    ∃ digits : Digits, c :: text = digits.chars ++ (c :: text).dropWhile Char.isDigit := by
  refine ⟨⟨(c :: text).takeWhile Char.isDigit, by simp [digit],
    fun c inside => List.mem_takeWhile_imp inside⟩, ?_⟩
  exact List.takeWhile_append_dropWhile.symm

/-- Digits that do not start with a zero are a whole part. -/
theorem exists_whole (digit : c.isDigit = true) (notZero : c ≠ '0') (text : List Char) :
    ∃ whole, c :: text = Nat.toDigits 10 whole ++ (c :: text).dropWhile Char.isDigit := by
  obtain ⟨digits, spelled⟩ := exists_digits digit text
  have first : digits.chars.head? = some c := by
    obtain ⟨d, more, front⟩ := List.exists_cons_of_ne_nil digits.nonempty
    rw [front, List.cons_append] at spelled
    rw [front, List.head?_cons, (List.cons.inj spelled).1]
  obtain ⟨-, whole⟩ := toDigits_ofDigitChars digits.digits digits.nonempty (by simp [first, notZero])
  exact ⟨_, by rw [whole, ← spelled]⟩

theorem cons_of_any_isDigit (digit : text.head?.any Char.isDigit = true) :
    ∃ c more, text = c :: more ∧ c.isDigit = true := by
  cases text with
  | nil => contradiction
  | cons c more => exact ⟨c, more, rfl, digit⟩

def skipSomeDigits : Reader Unit := do
  if (← Reader.peek?).any Char.isDigit then
    skipDigits
  else
    Reader.failAtNext .invalidNumber

theorem exists_someDigits (text : List Char)
    (taken : skipSomeDigits.run? text = some ((), rest)) :
    ∃ digits : Digits, text = digits.chars ++ rest := by
  simp only [skipSomeDigits, Reader.run?_bind, Reader.run?_peek?, Option.bind_some,
    Reader.run?_ite, Reader.run?_skipDigits, Reader.run?_failAtNext, Option.ite_none_right_eq_some,
    Option.some.injEq, Prod.mk.injEq, true_and] at taken
  obtain ⟨digit, rfl⟩ := taken
  obtain ⟨c, more, rfl, digit⟩ := cons_of_any_isDigit digit
  exact exists_digits digit more

/-- What is passed over as an exponent is one. -/
theorem exists_exponent {mark : Char} (marked : isExponentMark (some mark) = true)
    (taken : skipExponent.run? (mark :: text) = some ((), rest)) :
    ∃ exponent : ExponentText, mark :: text = (if exponent.capital then 'E' else 'e')
      :: (exponent.sign.text ++ (exponent.digits.chars ++ rest)) := by
  have letter : ∃ capital : Bool, mark = if capital then 'E' else 'e' := by
    simp only [isExponentMark, Bool.or_eq_true, beq_iff_eq, Option.some.injEq] at marked
    rcases marked with rfl | rfl
    · exact ⟨false, rfl⟩
    · exact ⟨true, rfl⟩
  obtain ⟨capital, rfl⟩ := letter
  simp only [skipExponent, Reader.run?_bind, Reader.run?_skipOne, Reader.run?_peek?,
    Option.bind_some, List.tail_cons] at taken
  split at taken
  · rename_i signed
    have behind : ∃ sign, text = ExponentSign.text sign ++ text.tail := by
      cases text with
      | nil => simp at signed
      | cons c more =>
          rcases signed with plus | minus
          · exact ⟨.plus, by simpa [ExponentSign.text] using plus⟩
          · exact ⟨.minus, by simpa [ExponentSign.text] using minus⟩
    obtain ⟨sign, spelled⟩ := behind
    obtain ⟨written, last⟩ := exists_someDigits text.tail taken
    exact ⟨⟨capital, sign, written⟩, by rw [spelled, last]⟩
  · obtain ⟨written, rfl⟩ := exists_someDigits text taken
    exact ⟨⟨capital, .unsigned, written⟩, rfl⟩

theorem exists_exponentText (taken : skipAnyExponent.run? text = some ((), rest)) :
    ∃ exponent, ∀ number : NumberText, number.exponent = exponent →
      text = number.exponentText ++ rest := by
  simp only [skipAnyExponent, Reader.run?_bind, Reader.run?_peek?, Option.bind_some,
    Reader.run?_ite] at taken
  split at taken
  · rename_i marked
    cases text with
    | nil => simp [isExponentMark] at marked
    | cons mark text =>
        obtain ⟨exponent, spelled⟩ := exists_exponent marked taken
        refine ⟨some exponent, fun number written => ?_⟩
        rw [spelled, NumberText.exponentText, written]
        simp only [List.cons_append, List.append_assoc]
  · obtain rfl : text = rest := by simpa using taken
    exact ⟨none, fun number written => by rw [NumberText.exponentText, written, List.nil_append]⟩

theorem exists_behindWhole (taken : skipBehindWhole.run? text = some ((), rest)) :
    ∃ fraction exponent, ∀ number : NumberText, number.fraction = fraction →
      number.exponent = exponent → text = number.fractionText ++ (number.exponentText ++ rest) := by
  simp only [skipBehindWhole, Reader.run?_bind, Reader.run?_peek?, Option.bind_some,
    Reader.run?_ite] at taken
  split at taken
  · rename_i point
    cases text with
    | nil => contradiction
    | cons c text =>
        obtain rfl : c = '.' := by simpa using point
        simp only [Reader.run?_skipOne, Option.bind_some, List.tail_cons] at taken
        split at taken
        · rename_i digit
          obtain ⟨c, more, rfl, digit⟩ := cons_of_any_isDigit digit
          obtain ⟨digits, spelled⟩ := exists_digits digit more
          simp only [Reader.run?_skipDigits, Option.bind_some] at taken
          obtain ⟨exponent, last⟩ := exists_exponentText taken
          refine ⟨some digits, exponent, fun number fraction written => ?_⟩
          rw [spelled, ← last number written, NumberText.fractionText, fraction, List.cons_append]
        · simp at taken
  · obtain ⟨exponent, last⟩ := exists_exponentText taken
    refine ⟨none, exponent, fun number fraction written => ?_⟩
    rw [NumberText.fractionText, fraction, List.nil_append, ← last number written]

/-- What is passed over as a number behind its sign is one. -/
theorem exists_number (negative : Bool) (taken : skipNumeral.run? text = some ((), rest)) :
    ∃ number : NumberText, number.negative = negative ∧ text = number.magnitudeText ++ rest := by
  have built (whole : Nat) (behind : List Char)
      (passed : skipBehindWhole.run? behind = some ((), rest)) :
      ∃ number : NumberText, number.negative = negative
        ∧ Nat.toDigits 10 whole ++ behind = number.magnitudeText ++ rest := by
    obtain ⟨fraction, exponent, spelled⟩ := exists_behindWhole passed
    refine ⟨⟨negative, whole, fraction, exponent⟩, rfl, ?_⟩
    rw [spelled ⟨negative, whole, fraction, exponent⟩ rfl rfl, NumberText.magnitudeText,
      List.append_assoc, List.append_assoc]
  cases text with
  | nil => simp [skipNumeral] at taken
  | cons c text =>
      by_cases zero : c = '0'
      · subst zero
        have noDigit : NoDigit text := by
          by_contra digit
          obtain ⟨d, more, rfl, second⟩ := cons_of_any_isDigit (Bool.eq_true_of_not_eq_false digit)
          simp [skipNumeral, second] at taken
        rw [run?_skipNumeral_zero noDigit] at taken
        exact built 0 text taken
      by_cases digit : c.isDigit = true
      · rw [run?_skipNumeral_digits digit zero] at taken
        obtain ⟨whole, spelled⟩ := exists_whole digit zero text
        rw [spelled]
        exact built whole _ taken
      · simp [skipNumeral, zero, digit] at taken

theorem noDigit_dropWhile (text : List Char) : NoDigit (text.dropWhile Char.isDigit) := by
  unfold NoDigit
  cases behind : text.dropWhile Char.isDigit with
  | nil => rfl
  | cons c more =>
      have first := List.head?_dropWhile_not Char.isDigit text
      rw [behind] at first
      simpa using first

/-- An integer is read only where nothing goes on behind the whole part. -/
theorem of_run?_numeralTail {negative : Bool} {dropped : Nat} {value : Int}
    (read : (numeralTail negative n dropped).run? text = some (.integer value, rest)) :
    dropped = 0 ∧ text = rest
      ∧ (⟨negative, n, none, none⟩ : NumberText).integer? = some value := by
  have plain : ¬ (text.head? = some '.' ∨ isExponentMark text.head? = true ∨ dropped ≠ 0) :=
    fun more => run?_numeralTail_ne_integer more read
  obtain ⟨noPoint, noExponent, whole⟩ : text.head? ≠ some '.' ∧ isExponentMark text.head? = false
      ∧ dropped = 0 := by
    simpa using plain
  refine ⟨whole, ?_⟩
  simp only [numeralTail, Reader.run?_bind, Reader.run?_peek?, Option.bind_some, noPoint, noExponent,
    whole, if_true, if_false, Bool.false_eq_true] at read
  cases negative with
  | false =>
      obtain ⟨rfl, rfl⟩ : (n : Int) = value ∧ text = rest := by
        simpa [wholeNumeral] using read
      exact ⟨rfl, rfl⟩
  | true =>
      by_cases range : 1 ≤ n ∧ n ≤ Nat.pow 2 63
      · obtain ⟨less, rfl⟩ := Nat.exists_eq_add_one_of_ne_zero (Nat.ne_zero_of_lt range.1)
        rw [wholeNumeral, if_pos rfl, if_pos range] at read
        simp only [Reader.run?_pure, Option.some.injEq, Prod.mk.injEq, Numeral.integer.injEq] at read
        obtain ⟨rfl, rfl⟩ := read
        exact ⟨rfl, rfl⟩
      · rw [wholeNumeral, if_pos rfl, if_neg range] at read
        exact absurd read (neverInteger_scaledNumeral _ _ _)

/-- What is read as an integer is written as one. -/
theorem exists_integer (text : List Char) {negative : Bool} {value : Int}
    (read : (numeral negative).run? text = some (.integer value, rest)) :
    ∃ number : NumberText, number.negative = negative ∧ text = number.magnitudeText ++ rest
      ∧ number.integer? = some value := by
  have built (whole : Nat) (integer : (⟨negative, whole, none, none⟩ : NumberText).integer? = some value) :
      ∃ number : NumberText, number.negative = negative
        ∧ Nat.toDigits 10 whole ++ rest = number.magnitudeText ++ rest
        ∧ number.integer? = some value := by
    refine ⟨⟨negative, whole, none, none⟩, rfl, ?_, integer⟩
    simp [NumberText.magnitudeText, NumberText.fractionText, NumberText.exponentText]
  cases text with
  | nil => simp [numeral] at read
  | cons c text =>
      by_cases zero : c = '0'
      · subst zero
        have single : Nat.toDigits 10 0 = ['0'] := by decide
        simp only [numeral, Reader.run?_bind, Reader.run?_get, Option.bind_some, Reader.run?_set,
          Reader.run?_ite, Reader.run?_failAtNext, Option.ite_none_left_eq_some] at read
        obtain ⟨-, rfl, integer⟩ := of_run?_numeralTail read.2
        simpa [single] using built 0 integer
      by_cases digit : c.isDigit = true
      · obtain ⟨whole, spelled⟩ := exists_whole digit zero text
        obtain ⟨behind, kept⟩ := extendSignificand_noDigit 0 0
          (fun c (inside : c ∈ Nat.toDigits 10 whole) => isDigit_of_mem_toDigits inside)
          (noDigit_dropWhile (c :: text)) (Nat.zero_le _)
        rw [← spelled] at behind kept
        rw [Nat.ofDigitChars_ten_toDigits] at kept
        rw [← drop_length_takeWhile] at behind
        obtain ⟨all, rfl, integer⟩ := of_run?_numeralTail (by simpa [numeral, digit, behind] using read)
        rw [(kept (List.length_eq_zero_iff.mp all)).1] at integer
        rw [spelled, List.dropWhile_cons_of_pos digit]
        exact built whole integer
      · simp [numeral, digit] at read

end Findings.Json
