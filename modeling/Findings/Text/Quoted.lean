import Findings.Text.Blank
import Findings.Text.Unicode.PlainTable

/-!
Contract: a text between double quotes, with escapes for what would not show.

Owns:
- the escapes: a backslash and a letter for NUL, tab, line feed, carriage
  return, the double quote and the backslash; a braced hexadecimal code point
  for every other character that is not shown as itself;
- lower case hexadecimal digits without leading zeros.

Does not own: JSON strings, whose escapes differ.
-/

namespace Findings.Text

/-- Hexadecimal digits of a number, lower case, without leading zeros. -/
def hexDigits (n : Nat) : List Char :=
  Nat.toDigits 16 n

def quotedChar (c : Char) : List Char :=
  if c = '\x00' then ['\\', '0']
  else if c = '\t' then ['\\', 't']
  else if c = '\r' then ['\\', 'r']
  else if c = '\n' then ['\\', 'n']
  else if c = '\\' ∨ c = '"' then ['\\', c]
  else if inRanges Unicode.hiddenRanges c.toNat then
    ['\\', 'u', '\x7b'] ++ hexDigits c.toNat ++ ['\x7d']
  else [c]

def quoted (text : List Char) : List Char :=
  '"' :: text.flatMap quotedChar ++ ['"']

end Findings.Text
