import Findings.Decimal.Double

/-!
Contract: numbers with a given number of digits.

Owns:
- reading a decimal or hexadecimal number, with infinity and with what is no
  number;
- writing a number with a fixed number of places, with a fixed number of digits
  and an exponent, or with as few of both as it takes.

The digits are those of the exact binary64 value; of two numbers of equal
distance the one with the even digit is taken.
-/

namespace Findings.Decimal

/-! ## Values -/

inductive Extended where
  | finite (isNegative : Bool) (magnitude : Binary)
  | infinite (isNegative : Bool)
  | undefined (isNegative : Bool)
deriving Repr

def Extended.ofFloat (isNegative : Bool) (x : Float) : Extended :=
  let bits := (Double.ofFloat x).bits
  if (bits >>> 52) &&& 0x7FF == 0x7FF then
    if bits &&& 0xFFFFFFFFFFFFF == 0 then .infinite isNegative else .undefined isNegative
  else .finite isNegative (Double.ofFloat x).magnitude

/-! ## Reading -/

/-- Digits of a number with the number of those behind the point, and what
follows them. -/
structure ReadDigits where
  digits : Nat
  count : Nat
  places : Nat
  rest : List Char

def digitOf? (base : Nat) (c : Char) : Option Nat :=
  let value :=
    if c.isDigit then c.toNat - '0'.toNat
    else if 'a' ≤ c.toLower && c.toLower ≤ 'f' then c.toLower.toNat - 'a'.toNat + 10
    else base
  if value < base then some value else none

/-- Reads digits that may have a point between them. -/
def readDigits (base : Nat) (hasPoint : Bool) (read : ReadDigits) : List Char → ReadDigits
  | [] => { read with rest := [] }
  | c :: rest =>
    match digitOf? base c with
    | some digit =>
      readDigits base hasPoint
        { read with
          digits := read.digits * base + digit
          count := read.count + 1
          places := if hasPoint then read.places + 1 else read.places }
        rest
    | none =>
      if c = '.' && !hasPoint then readDigits base true read rest
      else { read with rest := c :: rest }

/-- Reads an exponent behind its letter, if there is one. -/
def readExponent (letter : Char) (text : List Char) : Int × List Char :=
  match text with
  | c :: rest =>
    if c.toLower = letter then
      let (isNegative, digits) := match rest with
        | '-' :: digits => (true, digits)
        | '+' :: digits => (false, digits)
        | digits => (false, digits)
      let written := digits.takeWhile Char.isDigit
      if written.isEmpty then
        (0, text)
      else
        let value := written.foldl (fun value c => value * 10 + (c.toNat - '0'.toNat)) 0
        (if isNegative then -(value : Int) else value, digits.drop written.length)
    else
      (0, text)
  | [] => (0, text)

def decimalFloat (digits : Nat) (exponent : Int) : Float :=
  if digits = 0 || exponent < -5000 then 0
  else if 5000 < exponent then 1 / 0
  else Float.ofScientific digits (exponent < 0) exponent.natAbs

/-- The machine number nearest to `digits * 2 ^ exponent`. -/
def binaryFloat (digits : Nat) (exponent : Int) : Float :=
  if exponent < 0 then
    decimalFloat (digits * Nat.pow 5 (min exponent.natAbs 2000)) (-(min exponent.natAbs 2000 : Nat))
  else decimalFloat (digits * Nat.pow 2 (min exponent.natAbs 2000)) 0

/-- Whether a text begins with a word, whatever the size of its letters. -/
def startsWithWord (word : String) (text : List Char) : Bool :=
  (text.take word.length).map Char.toLower = word.toList

/-- The number at the front of a text, and what follows it. -/
def readNumber? (text : List Char) : Option (Extended × List Char) :=
  let (isNegative, text) := match text with
    | '-' :: text => (true, text)
    | '+' :: text => (false, text)
    | text => (false, text)
  if startsWithWord "infinity" text then some (.infinite isNegative, text.drop 8)
  else if startsWithWord "inf" text then some (.infinite isNegative, text.drop 3)
  else if startsWithWord "nan" text then some (.undefined isNegative, text.drop 3)
  else
    let hexadecimal := readDigits 16 false ⟨0, 0, 0, []⟩ (text.drop 2)
    if startsWithWord "0x" text && hexadecimal.count ≠ 0 then
      let (exponent, rest) := readExponent 'p' hexadecimal.rest
      let x := binaryFloat hexadecimal.digits (exponent - 4 * hexadecimal.places)
      some (.ofFloat isNegative x, rest)
    else
      let decimal := readDigits 10 false ⟨0, 0, 0, []⟩ text
      if decimal.count = 0 then
        none
      else
        let (exponent, rest) := readExponent 'e' decimal.rest
        some (.ofFloat isNegative (decimalFloat decimal.digits (exponent - decimal.places)), rest)

/-! ## Writing -/

namespace Binary

/-- The number of steps of `10 ^ e` that is nearest to `x`. -/
def nearestSteps (x : Binary) (e : Int) : Nat :=
  let below := x.stepsBelow e
  match compareScaled (2 * below + 1) e (2 * x.m) x.q with
  | .gt => below
  | .lt => below + 1
  | .eq => if below % 2 = 0 then below else below + 1

/-- The digits before and after the point, with a number of places. -/
def fixedDigits (x : Binary) (places : Nat) : List Char × List Char :=
  let written := Nat.toDigits 10 (x.nearestSteps (-(places : Int)))
  let written := List.replicate (places + 1 - written.length) '0' ++ written
  (written.take (written.length - places), written.drop (written.length - places))

/-- The digits and the exponent of the first one, with a number of digits behind
it. -/
def scientificDigits (x : Binary) (places : Nat) : List Char × Int :=
  if x.m = 0 then
    (List.replicate (places + 1) '0', 0)
  else
    let exponent := x.scale - 1
    let written := Nat.toDigits 10 (x.nearestSteps (exponent - places))
    if written.length = places + 1 then (written, exponent)
    else (written.take (places + 1), exponent + 1)

end Binary

/-- Digits with a point, which may be there even if nothing follows it. -/
def pointed (keepsPoint : Bool) (whole part : List Char) : List Char :=
  if part.isEmpty && !keepsPoint then whole else whole ++ '.' :: part

def exponentText (exponent : Int) : List Char :=
  let written := Nat.toDigits 10 exponent.natAbs
  'e' :: (if exponent < 0 then '-' else '+') :: (List.replicate (2 - written.length) '0' ++ written)

def fixedText (x : Binary) (places : Nat) (keepsPoint : Bool) : List Char :=
  let (whole, part) := x.fixedDigits places
  pointed keepsPoint whole part

/-- A magnitude with an exponent and a number of places. -/
def scientificText (x : Binary) (places : Nat) (keepsPoint : Bool) : List Char :=
  let (digits, exponent) := x.scientificDigits places
  pointed keepsPoint (digits.take 1) (digits.drop 1) ++ exponentText exponent

def withoutZeros (digits : List Char) : List Char :=
  (digits.reverse.dropWhile (· = '0')).reverse

/-- A magnitude with a number of digits, with an exponent only where it is very
small or has more digits in front of its point. -/
def generalText (x : Binary) (digits : Nat) (keepsZeros : Bool) : List Char :=
  let digits := max digits 1
  let trim (part : List Char) : List Char := if keepsZeros then part else withoutZeros part
  let (written, exponent) := x.scientificDigits (digits - 1)
  if exponent < -4 || (digits : Int) ≤ exponent then
    pointed keepsZeros (written.take 1) (trim (written.drop 1)) ++ exponentText exponent
  else
    let (whole, part) := x.fixedDigits ((digits : Int) - 1 - exponent).toNat
    pointed keepsZeros whole (trim part)

/-- A magnitude as a hexadecimal number with a binary exponent, perhaps with a
number of places. -/
def hexadecimalText (x : Binary) (places : Option Nat) (keepsPoint : Bool) : List Char :=
  if x.m = 0 then
    pointed keepsPoint ['0'] (List.replicate (places.getD 0) '0') ++ ['p', '+', '0']
  else
    let isNormal := Nat.pow 2 52 ≤ x.m
    let lead := if isNormal then 1 else 0
    let fraction := x.m - lead * Nat.pow 2 52
    let exponent : Int := x.q + 52
    let (lead, part) := match places with
      | some places =>
        if 13 ≤ places then
          (lead, fraction * Nat.pow 16 (places - 13))
        else
          let unit := Nat.pow 16 (13 - places)
          let below := x.m / unit
          let twice := 2 * (x.m % unit)
          let rounded :=
            if unit < twice || (unit = twice && below % 2 = 1) then below + 1 else below
          (rounded / Nat.pow 16 places, rounded % Nat.pow 16 places)
      | none => (lead, fraction)
    let count := places.getD 13
    let written := Nat.toDigits 16 part
    let written := List.replicate (count - written.length) '0' ++ written
    let written :=
      if places.isSome then written.drop (written.length - count) else withoutZeros written
    pointed keepsPoint (Nat.toDigits 10 lead) written
      ++ 'p' :: (if exponent < 0 then '-' else '+') :: Nat.toDigits 10 exponent.natAbs

/-- A tie goes to the even digit. -/
example :
    fixedText ⟨1, -1, true⟩ 0 false = ['0'] ∧ fixedText ⟨3, -1, false⟩ 0 false = ['2'] := by
  decide +kernel

end Findings.Decimal
