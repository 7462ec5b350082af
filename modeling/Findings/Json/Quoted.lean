import Findings.Json.Reader
import Findings.Text.Utf8

/-!
Contract: JSON strings, read and written.

Owns:
- `quote`, which escapes the double quote, the backslash and the characters
  below U+0020, and nothing else;
- `stringBody`, which undoes every escape and joins surrogate pairs;
- `skipStringBody`, which only looks for the closing quote: it asks for four
  hexadecimal digits after `\u` and does not pair surrogates.

A hexadecimal escape is judged by four octets, so a character of several
octets among them moves the place of the fault.
-/

namespace Findings.Json

open Findings.Text

/-! ## Writing -/

/-- The letter of a character that has a short escape. -/
def escapeLetter? (c : Char) : Option Char :=
  if c = '"' ∨ c = '\\' then some c
  else if c = '\x08' then some 'b'
  else if c = '\t' then some 't'
  else if c = '\n' then some 'n'
  else if c = '\x0c' then some 'f'
  else if c = '\r' then some 'r'
  else none

def hexDigit (n : Nat) : Char :=
  if n < 10 then Char.ofNat ('0'.toNat + n) else Char.ofNat ('a'.toNat + (n - 10))

def escapeChar (c : Char) : List Char :=
  match escapeLetter? c with
  | some letter => ['\\', letter]
  | none =>
    if c < ' ' then
      ['\\', 'u', '0', '0', hexDigit (c.toNat / 16), hexDigit (c.toNat % 16)]
    else [c]

def quote (text : List Char) : List Char :=
  '"' :: text.flatMap escapeChar ++ ['"']

/-! ## Escapes, read -/

def unescapeLetter? (c : Char) : Option Char :=
  if c = '"' ∨ c = '\\' ∨ c = '/' then some c
  else if c = 'b' then some '\x08'
  else if c = 't' then some '\t'
  else if c = 'n' then some '\n'
  else if c = 'f' then some '\x0c'
  else if c = 'r' then some '\r'
  else none

def hexValue? (c : Char) : Option Nat :=
  if '0' ≤ c ∧ c ≤ '9' then some (c.toNat - '0'.toNat)
  else if 'a' ≤ c ∧ c ≤ 'f' then some (c.toNat - 'a'.toNat + 10)
  else if 'A' ≤ c ∧ c ≤ 'F' then some (c.toNat - 'A'.toNat + 10)
  else none

def fourHexValue? (text : List Char) : Option Nat :=
  match text with
  | a :: b :: c :: d :: _ => do
    let a ← hexValue? a
    let b ← hexValue? b
    let c ← hexValue? c
    let d ← hexValue? d
    some (((a * 16 + b) * 16 + c) * 16 + d)
  | _ => none

/-- Four hexadecimal digits at the front of a text.  Fewer than four octets
are an end inside the string, whatever they are. -/
def fourHex (text : List Char) : Except Fault Nat :=
  match fourHexValue? text with
  | some value => .ok value
  | none =>
    if 4 ≤ utf8Length (text.take 4) then .error ⟨.invalidEscape, text, 4⟩
    else .error ⟨.endInString, [], 0⟩

/-- Whether a code unit starts a surrogate pair. -/
def isLeading (unit : Nat) : Bool :=
  0xD800 ≤ unit && unit ≤ 0xDBFF

def isTrailing (unit : Nat) : Bool :=
  0xDC00 ≤ unit && unit ≤ 0xDFFF

def pairChar (leading trailing : Nat) : Char :=
  Char.ofNat ((leading - 0xD800) * 0x400 + (trailing - 0xDC00) + 0x10000)

/-- The escape that has to follow a leading surrogate, and the character that
the two make.  The text is what follows the four digits of the first. -/
def trailingSurrogate (leading : Nat) (text : List Char) : Except Fault Char :=
  match text with
  | [] | ['\\'] => .error ⟨.endInString, [], 0⟩
  | '\\' :: 'u' :: digits => do
    let trailing ← fourHex digits
    if isTrailing trailing then .ok (pairChar leading trailing)
    else .error ⟨.loneSurrogate, digits.drop 4, 0⟩
  | '\\' :: other => .error ⟨.unfinishedSurrogatePair, other, 1⟩
  | other => .error ⟨.unfinishedSurrogatePair, other, 1⟩

/-- A character read from an escape, and how many characters it took after the
backslash. -/
structure Unescaped where
  char : Char
  taken : Nat
deriving DecidableEq, Repr

def unescape (text : List Char) : Except Fault Unescaped :=
  match text with
  | [] => .error ⟨.endInString, [], 0⟩
  | 'u' :: digits => do
    let unit ← fourHex digits
    if isTrailing unit then
      .error ⟨.loneSurrogate, digits.drop 4, 0⟩
    else if isLeading unit then
      return ⟨← trailingSurrogate unit (digits.drop 4), 11⟩
    else
      return ⟨Char.ofNat unit, 5⟩
  | c :: _ =>
    match unescapeLetter? c with
    | some char => .ok ⟨char, 1⟩
    | none => .error ⟨.invalidEscape, text, 1⟩

/-- The characters of a string up to its closing quote, after those already
read, which are given last first. -/
def stringBody
    (read : List Char)
    (text : List Char) :
    Except Fault (List Char × List Char) :=
  match text with
  | [] => .error ⟨.endInString, [], 0⟩
  | c :: rest =>
    if c = '"' then .ok (read.reverse, rest)
    else if c = '\\' then
      match unescape rest with
      | .error fault => .error fault
      | .ok escape => stringBody (escape.char :: read) (rest.drop escape.taken)
    else if c < ' ' then .error ⟨.controlCharacter, text, 1⟩
    else stringBody (c :: read) rest
termination_by text.length
decreasing_by
  all_goals simp only [List.length_drop, List.length_cons]; omega

/-- Reads a string whose opening quote was taken. -/
def stringRest : Reader String :=
  Reader.ofStep fun text => do
    let (chars, rest) ← stringBody [] text
    return (String.ofList chars, rest)

/-! ## Strings, passed over -/

/-- How many characters an escape takes after its backslash, if it is one. -/
def escapeExtent (text : List Char) : Except Fault Nat :=
  match text with
  | [] => .error ⟨.endInString, [], 0⟩
  | 'u' :: digits => do
    let _ ← fourHex digits
    return 5
  | c :: _ =>
    match unescapeLetter? c with
    | some _ => .ok 1
    | none => .error ⟨.invalidEscape, text, 1⟩

def skipStringBody (text : List Char) : Except Fault (List Char) :=
  match text with
  | [] => .error ⟨.endInString, [], 0⟩
  | c :: rest =>
    if c = '"' then .ok rest
    else if c = '\\' then
      match escapeExtent rest with
      | .error fault => .error fault
      | .ok taken => skipStringBody (rest.drop taken)
    else if c < ' ' then .error ⟨.controlCharacter, text, 0⟩
    else skipStringBody rest
termination_by text.length
decreasing_by
  all_goals simp only [List.length_drop, List.length_cons]; omega

def skipStringRest : Reader Unit :=
  Reader.ofStep fun text => do
    return ((), ← skipStringBody text)

end Findings.Json
