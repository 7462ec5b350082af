import Findings.Json.Reader

/-!
Contract: JSON numbers, read as values or passed over.

Owns:
- `Numeral`: an integer that fits 64 bits, signed or unsigned, or a binary64
  value;
- the significand of 64 bits: digits that would overflow it are dropped, and
  those before the point are counted in the exponent;
- the scaling of a significand by one multiplication or division with a power
  of ten, which is not always the nearest binary64 value;
- `skipNumeral`, which asks for the grammar alone.

A value with a fraction or an exponent is never an integer, and neither is
minus zero.
-/

namespace Findings.Json

inductive Numeral where
  | integer (value : Int)
  | floating (value : Decimal.Double)
deriving DecidableEq, Repr

/-! ## Significands -/

def significandLimit : Nat := UInt64.size - 1

def digitValue (c : Char) : Nat :=
  c.toNat - '0'.toNat

structure Significand where
  value : Nat
  taken : Nat
  rest : List Char
deriving DecidableEq, Repr

/-- Continues a significand with digits, up to the first character that is no
digit or would overflow it. -/
def extendSignificand (value taken : Nat) : List Char → Significand
  | [] => ⟨value, taken, []⟩
  | c :: rest =>
    if c.isDigit ∧ value * 10 + digitValue c ≤ significandLimit then
      extendSignificand (value * 10 + digitValue c) (taken + 1) rest
    else
      ⟨value, taken, c :: rest⟩

/-! ## Scaling -/

/-- The power of ten nearest to `10 ^ e`, for `e` at most 308. -/
def tenTo (e : Nat) : Float :=
  Float.ofScientific 1 false e

/-- Divides by `10 ^ e` in steps of at most `10 ^ 308`.  Two full steps leave
zero of any significand, so three turns are enough. -/
def scaleDown : Nat → Float → Nat → Float
  | 0, x, _ => x
  | turns + 1, x, e =>
    if e ≤ 308 then x / tenTo e else scaleDown turns (x / tenTo 308) (e - 308)

/-- The value of a significand scaled by a power of ten, unless it is beyond
the greatest binary64 value. -/
def scaled? (negative : Bool) (significand : Nat) (exponent : Int) : Option Decimal.Double :=
  let x := Float.ofScientific significand false 0
  let magnitude :=
    if exponent < 0 then scaleDown 3 x exponent.natAbs
    else if significand = 0 then x
    else if exponent ≤ 308 then x * tenTo exponent.toNat
    else Float.ofScientific 1 false 400
  if magnitude.toBits = 0x7FF0000000000000 then none
  else some (.ofFloat (if negative then -magnitude else magnitude))

/-! ## Reading -/

def skipDigits : Reader Unit :=
  modify fun text => text.dropWhile Char.isDigit

/-- A scaled significand as a number; refuses one that is out of range. -/
def scaledNumeral (negative : Bool) (significand : Nat) (exponent : Int) : Reader Numeral :=
  match scaled? negative significand exponent with
  | some value => return .floating value
  | none => Reader.failHere .numberOutOfRange

/-- The greatest exponent that is kept. -/
def exponentLimit : Nat := Nat.pow 2 31 - 1

/-- The digits of an exponent: its value, or the text after the digit that
takes it beyond the limit. -/
def exponentDigits (value : Nat) : List Char → Except (List Char) (Nat × List Char)
  | [] => .ok (value, [])
  | c :: rest =>
    if c.isDigit then
      if value * 10 + digitValue c ≤ exponentLimit then
        exponentDigits (value * 10 + digitValue c) rest
      else .error rest
    else .ok (value, c :: rest)

/-- The exponent of a number; its letter was not taken. -/
def exponentPart (negative : Bool) (significand : Nat) (shift : Int) : Reader Numeral := do
  Reader.skipOne
  let sign ← Reader.peek?
  if sign = some '+' ∨ sign = some '-' then
    Reader.skipOne
  let down := sign = some '-'
  match ← get with
  | [] => Reader.failHere .endInValue
  | c :: rest =>
    if c.isDigit then
      match exponentDigits (digitValue c) rest with
      | .ok (value, rest) =>
        set rest
        scaledNumeral negative significand
          (if down then shift - value else shift + value)
      | .error rest =>
        set rest
        if significand ≠ 0 ∧ ¬ down then
          Reader.failHere .numberOutOfRange
        else
          skipDigits
          return .floating (.ofFloat (if negative then -0.0 else 0.0))
    else
      Reader.failAtNext .invalidNumber

def isExponentMark (c : Option Char) : Bool :=
  c == some 'e' || c == some 'E'

/-- The fraction of a number; its point was not taken. -/
def fractionPart (negative : Bool) (significand : Nat) (shift : Int) : Reader Numeral := do
  Reader.skipOne
  let digits := extendSignificand significand 0 (← get)
  match digits.taken, digits.rest with
  | 0, [] => Reader.failHere .endInValue
  | taken, rest =>
    if taken = 0 ∧ ¬ rest.head?.any Char.isDigit then
      Reader.failAtNext .invalidNumber
    else
      set rest
      skipDigits
      let exponent := shift - taken
      if isExponentMark (← Reader.peek?) then
        exponentPart negative digits.value exponent
      else
        scaledNumeral negative digits.value exponent

/-- A number without fraction and exponent: an integer if 64 bits hold it,
unsigned for a positive and signed for a negative one. -/
def wholeNumeral (negative : Bool) (significand : Nat) : Reader Numeral :=
  if negative then
    if 1 ≤ significand ∧ significand ≤ Nat.pow 2 63 then
      return .integer (-(significand : Int))
    else
      scaledNumeral true significand 0
  else
    return .integer significand

/-- What follows the digits before the point; `dropped` of them did not fit
into the significand. -/
def numeralTail (negative : Bool) (significand dropped : Nat) : Reader Numeral := do
  let next ← Reader.peek?
  if next = some '.' then
    fractionPart negative significand dropped
  else if isExponentMark next then
    exponentPart negative significand dropped
  else if dropped = 0 then
    wholeNumeral negative significand
  else
    scaledNumeral negative significand dropped

/-- Reads a number whose sign, if any, was taken. -/
def numeral (negative : Bool) : Reader Numeral := do
  match ← get with
  | [] => Reader.failHere .endInValue
  | '0' :: rest =>
    set rest
    if rest.head?.any Char.isDigit then
      Reader.failAtNext .invalidNumber
    else
      numeralTail negative 0 0
  | c :: _ =>
    if c.isDigit then
      let digits := extendSignificand 0 0 (← get)
      let dropped := digits.rest.takeWhile Char.isDigit
      set (digits.rest.drop dropped.length)
      numeralTail negative digits.value dropped.length
    else
      Reader.failAtNext .invalidNumber

/-! ## Passing over -/

def skipExponent : Reader Unit := do
  Reader.skipOne
  let sign ← Reader.peek?
  if sign = some '+' ∨ sign = some '-' then
    Reader.skipOne
  if (← Reader.peek?).any Char.isDigit then
    skipDigits
  else
    Reader.failAtNext .invalidNumber

def skipNumeral : Reader Unit := do
  let first ← Reader.peek?
  if first = some '0' then
    Reader.skipOne
    if (← Reader.peek?).any Char.isDigit then
      Reader.failAtNext .invalidNumber
  else if first.any Char.isDigit then
    skipDigits
  else
    Reader.failAtNext .invalidNumber
  if (← Reader.peek?) = some '.' then
    Reader.skipOne
    if (← Reader.peek?).any Char.isDigit then
      skipDigits
    else
      Reader.failAtNext .invalidNumber
  if isExponentMark (← Reader.peek?) then
    skipExponent

end Findings.Json
