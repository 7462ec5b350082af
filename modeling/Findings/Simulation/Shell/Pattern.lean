import Findings.Simulation.Shell.Numeral

/-!
Contract: patterns of a shell.

Owns:
- `PatternChar`, a character that may be quoted, and the text of a pattern, in
  which a backslash stands in front of what is quoted;
- `matchesPattern`, with an asterisk for any text, a question mark for any
  character and brackets for one of several;
- cutting what a pattern matches off a value.

A backslash without quotes quotes what follows it, too.
-/

namespace Findings.Simulation.Shell

/-! ## Patterns -/

/-- A character of an expanded word, and whether it is quoted. -/
abbrev PatternChar := Char × Bool

/-- The text of a pattern behind a character that may have been a backslash. -/
def patternTextAfter (isEscaped : Bool) : List PatternChar → List Char
  | [] => []
  | (c, true) :: rest =>
    if isEscaped then c :: patternTextAfter false rest
    else '\\' :: c :: patternTextAfter false rest
  | (c, false) :: rest => c :: patternTextAfter (c == '\\') rest

def patternText (pattern : List PatternChar) : List Char :=
  patternTextAfter false pattern

/-! ## Brackets -/

/-- The place of an octet in the order of octets with a sign. -/
def signedOctet (c : Char) : Int :=
  if c.toNat < 128 then c.toNat else (c.toNat : Int) - 256

def characterClasses : List (String × (Char → Bool)) :=
  let isGraph (c : Char) : Bool := '!' ≤ c && c ≤ '~'
  [(":alnum:]", Char.isAlphanum), (":alpha:]", Char.isAlpha),
    (":blank:]", fun c => c == ' ' || c == '\t'),
    (":cntrl:]", fun c => c < ' ' || c == '\x7f'),
    (":digit:]", Char.isDigit), (":graph:]", isGraph), (":lower:]", Char.isLower),
    (":print:]", fun c => c == ' ' || isGraph c),
    (":punct:]", fun c => isGraph c && !c.isAlphanum), (":space:]", isSpace),
    (":upper:]", Char.isUpper), (":xdigit:]", fun c => digitValue c < 16)]

/-- The class whose name stands at the front of a text behind a bracket, and
what follows it. -/
def classAt (text : List Char) : Option ((Char → Bool) × List Char) :=
  (characterClasses.find? fun entry => entry.1.toList.isPrefixOf text).map fun entry =>
    (entry.2, text.drop entry.1.length)

/-- Whether the inside of a bracket has a character, and the pattern behind the
bracket; nothing if the bracket is not closed.  The first character of the
inside counts even if it closes the bracket. -/
def bracketHas (d : Char) (found : Bool) : Nat → List Char → Option (Bool × List Char)
  | 0, _ => none
  | _ + 1, [] => none
  | bound + 1, c :: rest =>
    let goOn (found : Bool) (rest : List Char) : Option (Bool × List Char) :=
      match rest with
      | ']' :: after => some (found, after)
      | rest => bracketHas d found bound rest
    let single (c : Char) (rest : List Char) : Option (Bool × List Char) :=
      match rest with
      | '-' :: ']' :: _ => goOn (found || d == c) rest
      | '-' :: last :: after =>
        let (last, after) := match last, after with
          | '\\', last :: after => (last, after)
          | last, after => (last, after)
        let isInside := signedOctet c ≤ signedOctet d && signedOctet d ≤ signedOctet last
        goOn (found || isInside) after
      | rest => goOn (found || d == c) rest
    if c = '[' then
      match classAt rest with
      | some (hasClass, after) => goOn (found || hasClass d) after
      | none => single c rest
    else if c = '\\' then
      match rest with
      | c :: rest => single c rest
      | [] => none
    else
      single c rest

/-- Whether the bracket that a pattern begins with matches a character, and the
pattern behind it. -/
def bracketMatch (pattern : List Char) (d : Char) : Option (Bool × List Char) :=
  match pattern with
  | '!' :: inside =>
    (bracketHas d false (inside.length + 1) inside).map fun (found, after) => (!found, after)
  | inside => bracketHas d false (inside.length + 1) inside

/-! ## Matching -/

def suffixes : List Char → List (List Char)
  | [] => [[]]
  | c :: rest => (c :: rest) :: suffixes rest

/-- Whether a pattern matches a whole text; the bound is more than the size of
the pattern. -/
def matchesWithin : Nat → List Char → List Char → Bool
  | 0, _, _ => false
  | _ + 1, [], text => text.isEmpty
  | bound + 1, c :: pattern, text =>
    let literal (c : Char) (pattern : List Char) : Bool :=
      match text with
      | d :: rest => d == c && matchesWithin bound pattern rest
      | [] => false
    match c with
    | '\\' =>
      match pattern with
      | c :: pattern => literal c pattern
      | [] => literal '\\' []
    | '?' =>
      match text with
      | _ :: rest => matchesWithin bound pattern rest
      | [] => false
    | '*' => (suffixes text).any fun rest => matchesWithin bound pattern rest
    | '[' =>
      match text with
      | [] => false
      | d :: rest =>
        match bracketMatch pattern d with
        | some (found, after) => found && matchesWithin bound after rest
        | none => literal '[' pattern
    | c => literal c pattern

def matchesPattern (pattern text : List Char) : Bool :=
  matchesWithin (pattern.length + 1) pattern text

/-- A text without what a pattern matches at its front. -/
def cutFront (pattern : List Char) (longest : Bool) (text : List Char) : List Char :=
  let lengths := List.range (text.length + 1)
  let lengths := if longest then lengths.reverse else lengths
  match lengths.find? fun length => matchesPattern pattern (text.take length) with
  | some length => text.drop length
  | none => text

/-- A text without what a pattern matches at its end. -/
def cutEnd (pattern : List Char) (longest : Bool) (text : List Char) : List Char :=
  let lengths := List.range (text.length + 1)
  let lengths := if longest then lengths else lengths.reverse
  match lengths.find? fun length => matchesPattern pattern (text.drop length) with
  | some length => text.take length
  | none => text

end Findings.Simulation.Shell
