import Findings.Proofs.Json.NumberText
import Findings.Proofs.Json.Spelled

/-!
Contract: a document is passed over as a whole, however deep it is.

Owns:
- `Skips`, the law that a piece of text is passed over in fewer turns than twice
  its length, inside any brackets that are open;
- the law for lists and objects, from the law for what is inside;
- the law for all documents.

The turns are counted from what is still to come: the reader goes on with the
turns that are left, so the counts of the parts add up.
-/

namespace Findings.Json

variable {text piece rest : List Char} {turns more : Nat} {bracket : Bracket}
  {enclosing : List Bracket}

/-- A piece of text is a value that is passed over. -/
def Skips (piece : List Char) : Prop :=
  ∃ turns < 2 * piece.length, ∀ enclosing rest more, Bounded rest →
    (skipTurns (turns + more) (.value enclosing)).run? (piece ++ rest)
      = (skipTurns more (.entry enclosing)).run? rest

/-- Passes over an entry of a bracket, from its name on. -/
def skipEntry (bracket : Bracket) (enclosing : List Bracket) (turns : Nat) : Reader Unit :=
  skipEntryName bracket enclosing >>= skipTurns turns

/-- A piece of text is an entry of a bracket that is passed over. -/
def SkipsEntry (bracket : Bracket) (piece : List Char) : Prop :=
  ∃ turns < 2 * piece.length, ∀ enclosing rest more, Bounded rest →
    (skipEntry bracket enclosing (turns + more)).run? (piece ++ rest)
      = (skipTurns more (.entry (bracket :: enclosing))).run? rest

/-! ## Turns -/

theorem ignoresSpace_skipTurns_value : IgnoresSpace (skipTurns turns (.value enclosing)) := by
  intro space text
  cases turns with
  | zero => rfl
  | succ turns => simp [skipTurns, skipStep, skipHead]

theorem ignoresSpace_skipTurns_entry :
    IgnoresSpace (skipTurns turns (.entry (bracket :: enclosing))) := by
  intro space text
  cases turns with
  | zero => rfl
  | succ turns => simp [skipTurns, skipStep]

theorem skipEntry_list :
    skipEntry .list enclosing turns = skipTurns turns (.value (.list :: enclosing)) := by
  simp [skipEntry, skipEntryName]

theorem ignoresSpace_skipEntry : IgnoresSpace (skipEntry bracket enclosing turns) := by
  cases bracket with
  | list =>
      rw [skipEntry_list]
      exact ignoresSpace_skipTurns_value
  | object =>
      intro space text
      simp [skipEntry, skipEntryName]

theorem run?_skipTurns_done :
    (skipTurns (turns + 1) (.entry [])).run? text = some ((), text) := by
  simp [skipTurns, skipStep]

theorem run?_skipTurns_head {state : SkipState}
    (head : (skipHead enclosing).run? text = some (state, rest)) :
    (skipTurns (turns + 1) (.value enclosing)).run? text = (skipTurns turns state).run? rest := by
  simp [skipTurns, skipStep, head]

theorem Bracket.closing_facts (bracket : Bracket) :
    isSpace bracket.closing = false ∧ bracket.closing ≠ ',' ∧ isBoundary bracket.closing = true := by
  cases bracket <;> decide

theorem run?_skipTurns_comma :
    (skipTurns (turns + 1) (.entry (bracket :: enclosing))).run? (',' :: text)
      = (skipEntry bracket enclosing turns).run? text := by
  have solid : isSpace ',' = false := by decide
  simp only [skipTurns, skipStep, skipEntry, Reader.run?_bind, Reader.run?_skipSpace,
    dropWhile_solid solid, Reader.run?_peek?, Option.bind_some, List.head?_cons, if_true,
    Reader.run?_skipOne, List.tail_cons, Reader.run?_map]
  cases (skipEntryName bracket enclosing).run? text <;> rfl

theorem run?_skipTurns_close :
    (skipTurns (turns + 1) (.entry (bracket :: enclosing))).run? (bracket.closing :: rest)
      = (skipTurns turns (.entry enclosing)).run? rest := by
  obtain ⟨solid, notComma, -⟩ := bracket.closing_facts
  simp [skipTurns, skipStep, solid, notComma]

theorem run?_skipTurns_empty (space : Space) :
    (skipTurns (turns + 1) (.opened bracket enclosing)).run?
        (space.chars ++ bracket.closing :: rest)
      = (skipTurns turns (.entry enclosing)).run? rest := by
  obtain ⟨solid, -, -⟩ := bracket.closing_facts
  simp [skipTurns, skipStep, solid]

/-- A piece of text starts with white space and then a character that cannot come
after a value. -/
def Starts (piece : List Char) : Prop :=
  ∃ (space : Space) (c : Char) (more : List Char),
    piece = space.chars ++ c :: more ∧ isBoundary c = false

theorem run?_skipTurns_first (space : Space) (starts : Starts piece) :
    (skipTurns (turns + 1) (.opened bracket enclosing)).run? (space.chars ++ (piece ++ rest))
      = (skipEntry bracket enclosing turns).run? (piece ++ rest) := by
  obtain ⟨gap, c, more, rfl, inside⟩ := starts
  have solid := isSpace_of_not_isBoundary inside
  have notEnd : c ≠ bracket.closing := ne_of_not_isBoundary inside bracket.closing_facts.2.2
  rw [List.append_assoc, List.cons_append, ignoresSpace_skipEntry]
  simp only [skipTurns, skipStep, skipEntry, Reader.run?_bind, Reader.run?_skipSpace,
    Space.dropWhile_append, dropWhile_solid solid, Reader.run?_peek?, Option.bind_some,
    List.head?_cons, if_neg notEnd, Reader.run?_map]
  cases (skipEntryName bracket enclosing).run? (c :: (more ++ rest)) <;> rfl

/-! ## Brackets -/

def Bracket.opening : Bracket → Char
  | list => '['
  | object => '\x7b'

theorem run?_skipHead_opening :
    (skipHead enclosing).run? (bracket.opening :: text)
      = some (.opened bracket enclosing, text) := by
  cases bracket <;> simp [skipHead, Bracket.opening, isSpace]

theorem bounded_closing (bracket : Bracket) {pieces : List (List Char)} :
    Bounded (afterCommas pieces ++ bracket.closing :: rest) := by
  have boundary := bracket.closing_facts.2.2
  cases pieces with
  | nil => exact bounded_cons boundary
  | cons piece more => exact bounded_cons (by decide)

/-- Entries after the first are passed over, each with a turn for its comma. -/
theorem skips_afterCommas {pieces : List (List Char)}
    (each : ∀ piece ∈ pieces, SkipsEntry bracket piece) :
    ∃ turns ≤ 2 * (afterCommas pieces).length, ∀ enclosing rest more,
      (skipTurns (turns + more) (.entry (bracket :: enclosing))).run?
          (afterCommas pieces ++ bracket.closing :: rest)
        = (skipTurns more (.entry (bracket :: enclosing))).run? (bracket.closing :: rest) := by
  induction pieces with
  | nil =>
      refine ⟨0, Nat.zero_le _, fun enclosing rest more => ?_⟩
      rw [Nat.zero_add, afterCommas, List.flatMap_nil, List.nil_append]
  | cons piece pieces inductionHypothesis =>
      obtain ⟨here, fewHere, entry⟩ := each piece List.mem_cons_self
      obtain ⟨later, fewLater, entries⟩ := inductionHypothesis fun piece inside =>
        each piece (List.mem_cons_of_mem _ inside)
      have length : (afterCommas (piece :: pieces)).length
          = 1 + piece.length + (afterCommas pieces).length := by
        simp only [afterCommas, List.flatMap_cons, List.length_append, List.length_cons]
        omega
      refine ⟨1 + here + later, by omega, fun enclosing rest more => ?_⟩
      have count : 1 + here + later + more = here + (later + more) + 1 := by omega
      have spelled : afterCommas (piece :: pieces) ++ bracket.closing :: rest
          = ',' :: (piece ++ (afterCommas pieces ++ bracket.closing :: rest)) := by
        simp [afterCommas]
      rw [count, spelled, run?_skipTurns_comma, entry _ _ _ (bounded_closing bracket), entries]

theorem skips_bracket
    (bracket : Bracket)
    {pieces : List (List Char)}
    (space : Space)
    (each : ∀ piece ∈ pieces, Starts piece ∧ SkipsEntry bracket piece) :
    Skips (bracket.opening :: (space.chars ++ commaJoined pieces) ++ [bracket.closing]) := by
  have count (turns more : Nat) : turns + 3 + more = turns + (more + 1) + 1 + 1 := by omega
  have text (rest : List Char) : bracket.opening :: (space.chars ++ commaJoined pieces)
        ++ [bracket.closing] ++ rest
      = bracket.opening :: (space.chars ++ (commaJoined pieces ++ bracket.closing :: rest)) := by
    simp
  cases pieces with
  | nil =>
      refine ⟨2, ?_, fun enclosing rest more _ => ?_⟩
      · simp only [List.length_append, List.length_cons]
        omega
      · have count : 2 + more = more + 1 + 1 := by omega
        rw [count, text, commaJoined, List.nil_append, run?_skipTurns_head run?_skipHead_opening,
          run?_skipTurns_empty]
  | cons piece pieces =>
      obtain ⟨starts, here, fewHere, entry⟩ := each piece List.mem_cons_self
      obtain ⟨later, fewLater, entries⟩ := skips_afterCommas fun piece inside =>
        (each piece (List.mem_cons_of_mem _ inside)).2
      refine ⟨here + later + 3, ?_, fun enclosing rest more _ => ?_⟩
      · simp only [commaJoined, List.length_append, List.length_cons, List.length_nil]
        omega
      · rw [count, Nat.add_assoc here, text, commaJoined, List.append_assoc,
          run?_skipTurns_head run?_skipHead_opening, run?_skipTurns_first space starts,
          entry _ _ _ (bounded_closing bracket), entries, run?_skipTurns_close]

/-! ## Entries -/

theorem Skips.element (skips : Skips piece) (before after : Space) :
    SkipsEntry .list (before.chars ++ piece ++ after.chars) := by
  obtain ⟨turns, few, value⟩ := skips
  refine ⟨turns, ?_, fun enclosing rest more bounded => ?_⟩
  · simp only [List.length_append]
    omega
  · rw [skipEntry_list, List.append_assoc, List.append_assoc, ignoresSpace_skipTurns_value,
      value _ _ _ (after.bounded bounded), ignoresSpace_skipTurns_entry]

theorem run?_skipEntry_name (name : MemberName) :
    (skipEntry .object enclosing turns).run? (name.text ++ text)
      = (skipTurns turns (.value (.object :: enclosing))).run? text := by
  have quote : isSpace '"' = false := by decide
  have colon : isSpace ':' = false := by decide
  have spelled : name.text ++ text = name.before.chars
      ++ '"' :: (name.spelled.flatMap SpelledChar.text
        ++ '"' :: (name.beforeColon.chars ++ ':' :: (name.afterColon.chars ++ text))) := by
    simp [MemberName.text, spelledText]
  rw [spelled, ignoresSpace_skipEntry, ← ignoresSpace_skipTurns_value name.afterColon]
  simp [skipEntry, skipEntryName, quote, colon, run?_skipStringRest]

theorem Skips.member (skips : Skips piece) (name : MemberName) (after : Space) :
    SkipsEntry .object (name.text ++ piece ++ after.chars) := by
  obtain ⟨turns, few, value⟩ := skips
  refine ⟨turns, ?_, fun enclosing rest more bounded => ?_⟩
  · simp only [List.length_append]
    omega
  · rw [List.append_assoc, List.append_assoc, run?_skipEntry_name,
      value _ _ _ (after.bounded bounded), ignoresSpace_skipTurns_entry]

/-! ## Documents -/

/-- A value without parts is passed over in one turn. -/
theorem skips_scalar
    (document : Document)
    (scalar : ∀ enclosing rest, Bounded rest →
      (skipHead enclosing).run? (document.chars ++ rest) = some (.entry enclosing, rest)) :
    Skips document.chars := by
  obtain ⟨c, letters, spelled, -⟩ := document.chars_eq_cons
  have positive : 0 < document.chars.length := by
    rw [spelled]
    exact Nat.succ_pos _
  refine ⟨1, by omega, fun enclosing rest more bounded => ?_⟩
  rw [Nat.add_comm, run?_skipTurns_head (scalar enclosing rest bounded)]

theorem run?_skipHead_null :
    (skipHead enclosing).run? (Document.null.chars ++ rest) = some (.entry enclosing, rest) := by
  have null : (literalRest ['u', 'l', 'l']).run? ('u' :: 'l' :: 'l' :: rest) = some ((), rest) :=
    Reader.run?_literalRest
  simp [Document.chars, skipHead, isSpace, null]

theorem run?_skipHead_boolean (value : Bool) :
    (skipHead enclosing).run? ((Document.boolean value).chars ++ rest)
      = some (.entry enclosing, rest) := by
  have yes : (literalRest ['r', 'u', 'e']).run? ('r' :: 'u' :: 'e' :: rest) = some ((), rest) :=
    Reader.run?_literalRest
  have no : (literalRest ['a', 'l', 's', 'e']).run? ('a' :: 'l' :: 's' :: 'e' :: rest)
      = some ((), rest) :=
    Reader.run?_literalRest
  cases value <;> simp [Document.chars, skipHead, isSpace, yes, no]

theorem run?_skipHead_number (number : NumberText) (bounded : Bounded rest) :
    (skipHead enclosing).run? (number.text ++ rest) = some (.entry enclosing, rest) := by
  have passed := run?_skipNumeral number bounded
  obtain ⟨c, more, spelled, digit⟩ := number.magnitudeText_eq_cons
  unfold NumberText.text
  split
  · simp [skipHead, isSpace, passed]
  · have solid := isSpace_of_not_isBoundary (not_isBoundary_of_isDigit digit)
    have notLetter {d : Char} (letter : d.isDigit = false) : c ≠ d := by
      rintro rfl
      rw [digit] at letter
      contradiction
    rw [spelled, List.cons_append] at passed ⊢
    simp [skipHead, solid, digit, passed, notLetter (d := 'n') rfl,
      notLetter (d := 't') rfl, notLetter (d := 'f') rfl,
      notLetter (d := '-') rfl]

theorem Document.starts (document : Document) (before : Space) :
    Starts (before.chars ++ document.chars ++ text) := by
  obtain ⟨c, more, spelled, heads⟩ := document.chars_eq_cons
  exact ⟨before, c, more ++ text, by simp [spelled], heads.inside⟩

theorem MemberName.starts (name : MemberName) : Starts (name.text ++ text) := by
  refine ⟨name.before, '"', name.spelled.flatMap SpelledChar.text ++ '"' ::
    (name.beforeColon.chars ++ ':' :: (name.afterColon.chars ++ text)), ?_, by decide⟩
  simp [MemberName.text, spelledText]

/-- A document is passed over, whatever it says. -/
theorem skips_document (document : Document) : Skips document.chars := by
  induction document using Document.induction with
  | null => exact skips_scalar _ fun _ _ _ => run?_skipHead_null
  | boolean value => exact skips_scalar _ fun _ _ _ => run?_skipHead_boolean value
  | number written =>
      apply skips_scalar
      intro enclosing rest bounded
      rw [Document.chars, run?_skipHead_number written bounded]
  | text spelled =>
      apply skips_scalar
      intro enclosing rest _
      simp [Document.chars, spelledText, skipHead, isSpace, run?_skipStringRest]
  | list space elements inductionHypothesis =>
      rw [Document.chars_list]
      apply skips_bracket .list space
      intro piece inside
      obtain ⟨element, known, rfl⟩ := List.mem_map.mp inside
      exact ⟨element.2.1.starts _, (inductionHypothesis element known).element _ _⟩
  | object space members inductionHypothesis =>
      rw [Document.chars_object]
      apply skips_bracket .object space
      intro piece inside
      obtain ⟨member, known, rfl⟩ := List.mem_map.mp inside
      refine ⟨?_, (inductionHypothesis member known).member _ _⟩
      rw [Document.memberText, List.append_assoc]
      exact member.1.starts

theorem ignoresSpace_skipValue {bound : Nat} : IgnoresSpace (skipValue bound) :=
  ignoresSpace_skipTurns_value

/-- A document whose text fits the bound is passed over. -/
theorem decides_skipValue {bound : Nat} (document : Document)
    (fits : document.chars.length ≤ bound) :
    Decides (skipValue bound) document.chars (some ()) := by
  intro rest bounded
  obtain ⟨turns, few, passed⟩ := skips_document document
  obtain ⟨left, count⟩ : ∃ left, 2 * bound + 2 = turns + (left + 1) :=
    ⟨2 * bound + 1 - turns, by omega⟩
  rw [skipValue, count, passed _ _ _ bounded, run?_skipTurns_done]
  rfl

end Findings.Json
