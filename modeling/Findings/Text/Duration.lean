/-!
Contract: spans of time as texts.

Owns: `durationText`, a number of nanoseconds in the largest unit of which
there is at least one, with as many decimals as are needed and no more.
-/

namespace Findings.Text

/-- The decimals of a part of a unit, `digits` of them make the whole unit,
without zeros at the end. -/
def decimals (digits part : Nat) : List Char :=
  let written := Nat.toDigits 10 part
  ((List.replicate (digits - written.length) '0' ++ written).reverse.dropWhile (· = '0')).reverse

/-- An amount of a unit of `10 ^ digits` nanoseconds. -/
def unitText (nanoseconds digits : Nat) (unit : String) : String :=
  let whole := nanoseconds / Nat.pow 10 digits
  let part := nanoseconds % Nat.pow 10 digits
  let tail := if part = 0 then [] else '.' :: decimals digits part
  toString whole ++ String.ofList tail ++ unit

def durationText (nanoseconds : Nat) : String :=
  if Nat.pow 10 9 ≤ nanoseconds then unitText nanoseconds 9 "s"
  else if Nat.pow 10 6 ≤ nanoseconds then unitText nanoseconds 6 "ms"
  else if Nat.pow 10 3 ≤ nanoseconds then unitText nanoseconds 3 "µs"
  else unitText nanoseconds 0 "ns"

end Findings.Text
