import Findings.Proofs.Json.Reader

/-!
Contract: a JSON string that is written is read back.

Owns:
- the three forms of a written character (a letter after a backslash, four
  hexadecimal digits, the character itself), each undone by the reader;
- the strings made of them, of any characters.

Does not own: the escapes that are read but never written.
-/

namespace Findings.Json

variable {c : Char} {read text rest : List Char}

/-! ## Hexadecimal digits -/

theorem hexValue?_hexDigit {n : Nat} (small : n < 16) : hexValue? (hexDigit n) = some n := by
  have all : ∀ n, n < 16 → hexValue? (hexDigit n) = some n := by decide
  exact all n small

/-- The escape of a character below U+0020 stands for the character. -/
theorem fourHex_control (control : c.toNat < 32) :
    fourHex ('0' :: '0' :: hexDigit (c.toNat / 16) :: hexDigit (c.toNat % 16) :: rest)
      = .ok c.toNat := by
  have zero : hexValue? '0' = some 0 := by decide
  have high := hexValue?_hexDigit (n := c.toNat / 16) (by omega)
  have low := hexValue?_hexDigit (n := c.toNat % 16) (by omega)
  have value : c.toNat / 16 * 16 + c.toNat % 16 = c.toNat := by omega
  simp [fourHex, fourHexValue?, zero, high, low, value]

/-! ## Characters -/

theorem unescapeLetter?_escapeLetter? {letter : Char} (short : escapeLetter? c = some letter) :
    unescapeLetter? letter = some c ∧ letter ≠ 'u' := by
  unfold escapeLetter? at short
  split at short
  · rename_i plain
    obtain rfl := Option.some.inj short
    rcases plain with rfl | rfl <;> decide
  · repeat
      split at short
      · rename_i named
        obtain rfl := Option.some.inj short
        subst named
        decide
    contradiction

theorem unescape_letter {letter : Char} (undone : unescapeLetter? letter = some c)
    (notHex : letter ≠ 'u') : unescape (letter :: rest) = .ok ⟨c, 1⟩ := by
  unfold unescape
  split
  · contradiction
  · rename_i same
    exact absurd (List.cons.inj same).1 notHex
  · rename_i same
    rw [(List.cons.inj same).1] at undone
    rw [undone]

theorem stringBody_letter {letter : Char} (short : escapeLetter? c = some letter) :
    stringBody read ('\\' :: letter :: rest) = stringBody (c :: read) rest := by
  obtain ⟨undone, notHex⟩ := unescapeLetter?_escapeLetter? short
  rw [stringBody]
  simp [unescape_letter undone notHex]

theorem stringBody_control (control : c.toNat < 32) :
    stringBody read
        ('\\' :: 'u' :: '0' :: '0' :: hexDigit (c.toNat / 16) :: hexDigit (c.toNat % 16) :: rest)
      = stringBody (c :: read) rest := by
  have taken : unescape
      ('u' :: '0' :: '0' :: hexDigit (c.toNat / 16) :: hexDigit (c.toNat % 16) :: rest)
        = .ok ⟨c, 5⟩ := by
    have notTrailing : isTrailing c.toNat = false := by simp [isTrailing]; omega
    have notLeading : isLeading c.toNat = false := by simp [isLeading]; omega
    simp [unescape, fourHex_control control, notTrailing, notLeading]
  rw [stringBody]
  simp [taken]

theorem stringBody_plain (notQuote : c ≠ '"') (notBackslash : c ≠ '\\') (shown : ¬ c < ' ') :
    stringBody read (c :: rest) = stringBody (c :: read) rest := by
  rw [stringBody]
  simp [notQuote, notBackslash, shown]

/-- A written character is read as the character. -/
theorem stringBody_escapeChar :
    stringBody read (escapeChar c ++ rest) = stringBody (c :: read) rest := by
  unfold escapeChar
  cases short : escapeLetter? c with
  | some letter => exact stringBody_letter short
  | none =>
      dsimp only
      by_cases control : c < ' '
      · rw [if_pos control]
        exact stringBody_control control
      · rw [if_neg control]
        apply stringBody_plain
        · rintro rfl
          exact absurd short (by decide)
        · rintro rfl
          exact absurd short (by decide)
        · exact control

/-! ## Strings -/

theorem stringBody_flatMap :
    stringBody read (text.flatMap escapeChar ++ '"' :: rest) = .ok (read.reverse ++ text, rest) := by
  induction text generalizing read with
  | nil =>
      rw [List.flatMap_nil, List.nil_append, stringBody]
      simp
  | cons c text inductionHypothesis =>
      rw [List.flatMap_cons, List.append_assoc, stringBody_escapeChar, inductionHypothesis]
      simp

theorem run_stringRest (value : String) (rest : List Char) :
    stringRest.run (value.toList.flatMap escapeChar ++ '"' :: rest) = .ok (value, rest) := by
  simp [stringRest, stringBody_flatMap]

/-- A written string is read as the string. -/
theorem reads_string {value expected : String} :
    Reads (string expected) (Value.text value).compact value := by
  intro rest _
  have body := run_stringRest value rest
  simp [string, Value.compact, quote, isSpace, body]

end Findings.Json
