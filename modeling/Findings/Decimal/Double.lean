/-!
Contract: the decimal text of a finite binary64 value.

Owns:
- `Binary`, the exact value behind the bits, and the interval of reals that
  round to it;
- `shortest`, the fewest digits that read back, and of those the nearest;
- the layout: positional with at least one decimal for exponents from -5 to
  15, scientific with a signed exponent for all others.

The selection works in exact natural arithmetic on the bits; no floating
point operation takes part in it.
-/

namespace Findings.Decimal

/-- A binary64 value, given by its bits. -/
structure Double where
  bits : UInt64
deriving DecidableEq, Repr

namespace Double

def ofFloat (x : Float) : Double := ⟨x.toBits⟩

def isNegative (x : Double) : Bool := x.bits >>> 63 == 1

end Double

/-! ## The exact value -/

/-- A finite magnitude `m * 2 ^ q`; `narrowBelow` says that the neighbour
below is half as far away as the neighbour above. -/
structure Binary where
  m : Nat
  q : Int
  narrowBelow : Bool
deriving DecidableEq, Repr

def Double.magnitude (x : Double) : Binary :=
  let exponent := ((x.bits >>> 52) &&& 0x7FF).toNat
  let fraction := (x.bits &&& 0xFFFFFFFFFFFFF).toNat
  if exponent = 0 then
    ⟨fraction, -1074, false⟩
  else
    ⟨Nat.pow 2 52 + fraction, (exponent : Int) - 1075, fraction == 0 && exponent > 1⟩

/-- Compares `digits * 10 ^ e` with `n * 2 ^ q`, exactly. -/
def compareScaled (digits : Nat) (e : Int) (n : Nat) (q : Int) : Ordering :=
  compare
    (digits * Nat.pow 10 e.toNat * Nat.pow 2 (-q).toNat)
    (n * Nat.pow 2 q.toNat * Nat.pow 10 (-e).toNat)

namespace Binary

/-- Whether `digits * 10 ^ e` lies among the reals that round to `x`: to
nearest, with the ends of the interval included when `x.m` is even. -/
def readsBack (x : Binary) (digits : Nat) (e : Int) : Bool :=
  let low := compareScaled digits e (if x.narrowBelow then 4 * x.m - 1 else 4 * x.m - 2) (x.q - 2)
  let high := compareScaled digits e (4 * x.m + 2) (x.q - 2)
  let even := x.m % 2 == 0
  (low == .gt || (even && low == .eq)) && (high == .lt || (even && high == .eq))

/-- The greatest number of steps of `10 ^ e` that does not exceed `x`. -/
def stepsBelow (x : Binary) (e : Int) : Nat :=
  (x.m * Nat.pow 2 x.q.toNat * Nat.pow 10 (-e).toNat)
    / (Nat.pow 10 e.toNat * Nat.pow 2 (-x.q).toNat)

/-- The least `k` with `x < 10 ^ k`, for `x` not zero; the estimate from the
binary length is at most two too small. -/
def scale (x : Binary) : Int :=
  let estimate := (((x.m.log2 : Int) + x.q) * 30103).fdiv 100000
  if compareScaled 1 estimate x.m x.q == .gt then estimate
  else if compareScaled 1 (estimate + 1) x.m x.q == .gt then estimate + 1
  else estimate + 2

end Binary

/-! ## The fewest digits -/

/-- The value `digits * 10 ^ exponent`. -/
structure Digits where
  digits : Nat
  exponent : Int
deriving DecidableEq, Repr

/-- The neighbour of `x` on the grid of `10 ^ e` that reads back; of two, the
nearer, and of two equally near the even one. -/
def onGrid? (x : Binary) (e : Int) : Option Digits :=
  let below := x.stepsBelow e
  match x.readsBack below e, x.readsBack (below + 1) e with
  | true, false => some ⟨below, e⟩
  | false, true => some ⟨below + 1, e⟩
  | false, false => none
  | true, true =>
    match compareScaled (2 * below + 1) e (2 * x.m) x.q with
    | .gt => some ⟨below, e⟩
    | .lt => some ⟨below + 1, e⟩
    | .eq => some ⟨if below % 2 = 0 then below else below + 1, e⟩

/-- Trailing zeros moved into the exponent; `bound` limits how many. -/
def dropZeros : Nat → Digits → Digits
  | 0, d => d
  | bound + 1, d =>
    if d.digits % 10 = 0 ∧ d.digits ≠ 0 then
      dropZeros bound ⟨d.digits / 10, d.exponent + 1⟩
    else d

/-- The fewest digits that read back to a magnitude other than zero.  Should
seventeen digits not suffice, the exact value is given. -/
def shortest (x : Binary) : Digits :=
  let k := x.scale
  let found := (List.range 17).findSome? fun n => onGrid? x (k - (n + 1 : Nat))
  dropZeros 400 (found.getD ⟨x.m * Nat.pow 2 x.q.toNat * Nat.pow 5 (-x.q).toNat,
    -((-x.q).toNat : Int)⟩)

/-! ## Layout -/

/-- The text of a positive value: positional when the exponent of the leading
digit is between -5 and 15, with at least one digit after the point. -/
def Digits.text (d : Digits) : List Char :=
  let written := Nat.toDigits 10 d.digits
  let leading := d.exponent + written.length - 1
  if 15 < leading ∨ leading < -5 then
    let sign := if leading < 0 then '-' else '+'
    let mantissa := match written with
      | first :: second :: more => first :: '.' :: second :: more
      | short => short
    mantissa ++ 'e' :: sign :: Nat.toDigits 10 leading.natAbs
  else if 0 ≤ d.exponent then
    written ++ List.replicate d.exponent.toNat '0' ++ ['.', '0']
  else if leading < 0 then
    '0' :: '.' :: List.replicate (-leading - 1).toNat '0' ++ written
  else
    written.take (leading.toNat + 1) ++ '.' :: written.drop (leading.toNat + 1)

def Double.text (x : Double) : List Char :=
  let magnitude := x.magnitude
  let body := if magnitude.m = 0 then ['0', '.', '0'] else (shortest magnitude).text
  if x.isNegative then '-' :: body else body

/-- A power of ten leaves the positional form at `10 ^ 16`. -/
example : (Double.text ⟨0x4341C37937E08000⟩) = "1e+16".toList := by
  decide +kernel

end Findings.Decimal
