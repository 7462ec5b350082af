/-!
Contract: whole numbers in words.

Owns:
- the number at the front of a text, in a base that may be shown by how the
  number begins;
- the greatest and least numbers, and going round at 64 bits;
- numbers that a whole word has to be.
-/

namespace Findings.Simulation.Shell

/-! ## Digits -/

def isSpace (c : Char) : Bool :=
  c == ' ' || ('\t' ≤ c && c ≤ '\r')

def digitValue (c : Char) : Nat :=
  if c.isDigit then c.toNat - '0'.toNat
  else if 'a' ≤ c && c ≤ 'z' then c.toNat - 'a'.toNat + 10
  else if 'A' ≤ c && c ≤ 'Z' then c.toNat - 'A'.toNat + 10
  else 36

def digitsValue (base : Nat) (digits : List Char) : Nat :=
  digits.foldl (fun value c => value * base + digitValue c) 0

def digitsOf (n : Nat) : List Char :=
  Nat.toDigits 10 n

def numberText (n : Int) : List Char :=
  if n < 0 then '-' :: digitsOf n.natAbs else digitsOf n.natAbs

/-! ## Numbers -/

structure LeadingNumber where
  isNegative : Bool
  magnitude : Nat
  rest : List Char

/-- The base of a number without its sign and the text of its digits.  Where the
base is open, a zero in front makes it eight, and a zero and an x sixteen. -/
def baseOf (base : Nat) (text : List Char) : Nat × List Char :=
  match text with
  | '0' :: x :: d :: _ =>
    if (x == 'x' || x == 'X') && digitValue d < 16 && (base = 0 || base = 16) then
      (16, text.drop 2)
    else
      (if base = 0 then 8 else base, text)
  | '0' :: _ => (if base = 0 then 8 else base, text)
  | _ => (if base = 0 then 10 else base, text)

/-- The number at the front of a text behind blanks and a sign, if there is
one. -/
def leadingNumber? (base : Nat) (text : List Char) : Option LeadingNumber :=
  let text := text.dropWhile isSpace
  let (isNegative, text) := match text with
    | '-' :: text => (true, text)
    | '+' :: text => (false, text)
    | text => (false, text)
  let (base, text) := baseOf base text
  let digits := text.takeWhile fun c => digitValue c < base
  if digits.isEmpty then none
  else some ⟨isNegative, digitsValue base digits, text.drop digits.length⟩

/-! ## Limits -/

def wordCount : Int := 18446744073709551616

def greatest : Int := 9223372036854775807

def least : Int := -9223372036854775808

/-- A number with a sign that differs by a multiple of the number of words. -/
def wrapped (n : Int) : Int :=
  Int.bmod n 18446744073709551616

namespace LeadingNumber

def value (number : LeadingNumber) : Int :=
  if number.isNegative then -(number.magnitude : Int) else number.magnitude

/-- Whether a number with its sign is too great or too small. -/
def isOutOfRange (number : LeadingNumber) : Bool :=
  number.value < least || greatest < number.value

/-- The nearest number that is neither too great nor too small. -/
def clamped (number : LeadingNumber) : Int :=
  min greatest (max least number.value)

def isTooLong (number : LeadingNumber) : Bool :=
  wordCount ≤ number.magnitude

def word (number : LeadingNumber) : Nat :=
  if number.isTooLong then (wordCount - 1).toNat
  else (number.value % wordCount).toNat

end LeadingNumber

/-! ## Words -/

/-- The number that a word is as a whole; blanks may stand around it. -/
def integer? (base : Nat) (word : List Char) : Option Int :=
  match leadingNumber? base word with
  | some number =>
    if number.isOutOfRange || !number.rest.all isSpace then none else some number.value
  | none => none

/-- The number of a variable in an expression: no text counts as zero. -/
def valueNumber? (word : List Char) : Option Int :=
  if word.all isSpace then some 0 else integer? 0 word

def count? (word : List Char) : Option Nat :=
  match integer? 10 word with
  | some number => if 0 ≤ number && number ≤ 2147483647 then some number.toNat else none
  | none => none

end Findings.Simulation.Shell
