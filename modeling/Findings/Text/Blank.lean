/-!
Contract: the characters that count as white space in settings, operating
system names and analyzer output.

Owns:
- the Unicode property White_Space as closed ranges of code points;
- removal of surrounding white space;
- the first word of a text.

Does not own: the white space of the JSON and TOML grammars, which is a
smaller set and is defined beside each grammar.
-/

namespace Findings.Text

/-- Closed ranges of code points with the Unicode property White_Space,
ascending and apart. -/
def blankRanges : List (Nat × Nat) :=
  [(0x09, 0x0D), (0x20, 0x20), (0x85, 0x85), (0xA0, 0xA0), (0x1680, 0x1680),
    (0x2000, 0x200A), (0x2028, 0x2029), (0x202F, 0x202F), (0x205F, 0x205F),
    (0x3000, 0x3000)]

def inRanges
    (ranges : List (Nat × Nat))
    (code : Nat) :
    Bool :=
  ranges.any fun range => range.1 ≤ code && code ≤ range.2

def isBlank (c : Char) : Bool :=
  inRanges blankRanges c.toNat

def trimLeft (text : List Char) : List Char :=
  text.dropWhile isBlank

def trim (text : List Char) : List Char :=
  (trimLeft (trimLeft text).reverse).reverse

/-- The first maximal run of characters that are not white space; empty if
the text has none. -/
def firstWord (text : List Char) : List Char :=
  (trimLeft text).takeWhile fun c => !isBlank c

/-- A space ends a word, and U+200B does not: it is not white space. -/
example :
    firstWord ['\t', 'L', '\u200b', 'x', '\u2003', 'y'] = ['L', '\u200b', 'x'] := by
  decide

end Findings.Text
