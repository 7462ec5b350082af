import Findings.Json.Quoted
import Findings.Proofs.Json.Value

/-!
Contract: JSON documents, and the texts that they are written as.

Owns:
- `Tree`, what a document says: member names may come again, members keep their
  order, and numbers are kept as they are written;
- `Document`, a tree with the white space between its tokens and the spelling
  of each character of its strings, and the text that all this makes;
- the grammar of strings and numbers: a string may spell a character by itself,
  by a letter after a backslash, or by one or two groups of four hexadecimal
  digits; a number has a whole part without needless zeros.

Nothing here is defined by a reader.  A surrogate never stands alone, because a
group of digits spells a character or half of one.
-/

namespace Findings.Json

/-! ## White space -/

/-- White space between tokens. -/
structure Space where
  chars : List Char
  blank : ∀ c ∈ chars, isSpace c = true

def Space.none : Space :=
  ⟨[], by simp⟩

/-! ## Strings -/

/-- The letters that come after a backslash, with what they stand for. -/
def shortEscapes : List (Char × Char) :=
  [('"', '"'), ('\\', '\\'), ('/', '/'), ('b', '\x08'), ('f', '\x0c'), ('n', '\n'),
    ('r', '\r'), ('t', '\t')]

def hexDigitOf (n : Nat) (capital : Bool) : Char :=
  if capital then (hexDigit n).toUpper else hexDigit n

/-- Four hexadecimal digits, some of them capital letters. -/
def hexDigits (n : Nat) (capital : Fin 4 → Bool) : List Char :=
  [hexDigitOf (n / 0x1000 % 0x10) (capital 0), hexDigitOf (n / 0x100 % 0x10) (capital 1),
    hexDigitOf (n / 0x10 % 0x10) (capital 2), hexDigitOf (n % 0x10) (capital 3)]

def hexEscape (n : Nat) (capital : Fin 4 → Bool) : List Char :=
  '\\' :: 'u' :: hexDigits n capital

def leadingUnit (c : Char) : Nat :=
  0xD800 + (c.toNat - 0x10000) / 0x400

def trailingUnit (c : Char) : Nat :=
  0xDC00 + (c.toNat - 0x10000) % 0x400

/-- A character of a string as it is written. -/
inductive SpelledChar where
  /-- By itself. -/
  | plain (c : Char) (allowed : ¬ c < ' ' ∧ c ≠ '"' ∧ c ≠ '\\')
  /-- By a letter after a backslash. -/
  | short (letter c : Char) (known : (letter, c) ∈ shortEscapes)
  /-- By the four digits of its number. -/
  | unit (c : Char) (small : c.toNat < 0x10000) (capital : Fin 4 → Bool)
  /-- By the digits of a leading and a trailing surrogate. -/
  | pair (c : Char) (large : 0x10000 ≤ c.toNat) (leading trailing : Fin 4 → Bool)

def SpelledChar.char : SpelledChar → Char
  | plain c _ | short _ c _ | unit c _ _ | pair c _ _ _ => c

def SpelledChar.text : SpelledChar → List Char
  | plain c _ => [c]
  | short letter _ _ => ['\\', letter]
  | unit c _ capital => hexEscape c.toNat capital
  | pair c _ leading trailing =>
    hexEscape (leadingUnit c) leading ++ hexEscape (trailingUnit c) trailing

def spelledString (spelled : List SpelledChar) : String :=
  String.ofList (spelled.map SpelledChar.char)

def spelledText (spelled : List SpelledChar) : List Char :=
  '"' :: spelled.flatMap SpelledChar.text ++ ['"']

/-- A character by itself if that is allowed, and otherwise by its digits. -/
def SpelledChar.of (c : Char) : SpelledChar :=
  if allowed : ¬ c < ' ' ∧ c ≠ '"' ∧ c ≠ '\\' then plain c allowed
  else if small : c.toNat < 0x10000 then unit c small fun _ => false
  else pair c (Nat.le_of_not_lt small) (fun _ => false) fun _ => false

theorem SpelledChar.char_of (c : Char) : (SpelledChar.of c).char = c := by
  unfold of
  split
  · rfl
  · split <;> rfl

def spell (value : String) : List SpelledChar :=
  value.toList.map SpelledChar.of

theorem spelledString_spell (value : String) : spelledString (spell value) = value := by
  simp [spelledString, spell, Function.comp_def, SpelledChar.char_of]

/-! ## Numbers -/

structure Digits where
  chars : List Char
  nonempty : chars ≠ []
  digits : ∀ c ∈ chars, c.isDigit = true

inductive ExponentSign where
  | unsigned
  | plus
  | minus

def ExponentSign.text : ExponentSign → List Char
  | unsigned => []
  | plus => ['+']
  | minus => ['-']

structure ExponentText where
  capital : Bool
  sign : ExponentSign
  digits : Digits

structure NumberText where
  negative : Bool
  /-- The digits before the point, as a number; they have no needless zeros. -/
  whole : Nat
  fraction : Option Digits
  exponent : Option ExponentText

namespace NumberText

def fractionText (number : NumberText) : List Char :=
  match number.fraction with
  | some digits => '.' :: digits.chars
  | none => []

def exponentText (number : NumberText) : List Char :=
  match number.exponent with
  | some exponent =>
    (if exponent.capital then 'E' else 'e') :: exponent.sign.text ++ exponent.digits.chars
  | none => []

def magnitudeText (number : NumberText) : List Char :=
  Nat.toDigits 10 number.whole ++ number.fractionText ++ number.exponentText

def text (number : NumberText) : List Char :=
  if number.negative then '-' :: number.magnitudeText else number.magnitudeText

/-- The integer that a number is written as: without a fraction, without an
exponent, and not as minus zero. -/
def integer? (number : NumberText) : Option Int :=
  match number.fraction, number.exponent, number.negative, number.whole with
  | none, none, false, whole => some whole
  | none, none, true, whole + 1 => some (-(whole + 1 : Nat))
  | _, _, _, _ => none

theorem magnitudeText_eq_cons (number : NumberText) :
    ∃ c more, number.magnitudeText = c :: more ∧ c.isDigit = true := by
  obtain ⟨c, more, spelled, digit⟩ := toDigits_eq_cons number.whole
  exact ⟨c, _, by rw [magnitudeText, spelled]; rfl, digit⟩

theorem text_eq_cons (number : NumberText) :
    ∃ c more, number.text = c :: more ∧ (c = '-' ∨ c.isDigit = true) := by
  obtain ⟨c, more, spelled, digit⟩ := number.magnitudeText_eq_cons
  unfold text
  split
  · exact ⟨'-', _, rfl, .inl rfl⟩
  · exact ⟨c, more, spelled, .inr digit⟩

end NumberText

/-! ## Trees -/

/-- What a document says. -/
inductive Tree where
  | null
  | boolean (value : Bool)
  | number (number : NumberText)
  | text (value : String)
  | list (elements : List Tree)
  | object (members : List (String × Tree))

/-- The values of the members of a name, in order. -/
def valuesOf (name : String) (members : List (String × Tree)) : List Tree :=
  members.filterMap fun member => if member.1 = name then some member.2 else none

/-! ## Documents -/

/-- The name of a member as it is written, with the white space around the name
and its colon. -/
structure MemberName where
  before : Space
  spelled : List SpelledChar
  beforeColon : Space
  afterColon : Space

def MemberName.plain (name : String) : MemberName :=
  ⟨.none, spell name, .none, .none⟩

def MemberName.text (name : MemberName) : List Char :=
  name.before.chars ++ spelledText name.spelled ++ name.beforeColon.chars
    ++ ':' :: name.afterColon.chars

/-- A tree as it is written.  Elements and members come with the white space
around them; there may be more of it behind an opening bracket. -/
inductive Document where
  | null
  | boolean (value : Bool)
  | number (number : NumberText)
  | text (spelled : List SpelledChar)
  | list (space : Space) (elements : List (Space × Document × Space))
  | object (space : Space) (members : List (MemberName × Document × Space))

namespace Document

mutual

def tree : Document → Tree
  | null => .null
  | boolean value => .boolean value
  | number written => .number written
  | text spelled => .text (spelledString spelled)
  | list _ elements => .list (elementTrees elements)
  | object _ members => .object (memberTrees members)

def elementTrees : List (Space × Document × Space) → List Tree
  | [] => []
  | (_, document, _) :: more => document.tree :: elementTrees more

def memberTrees : List (MemberName × Document × Space) → List (String × Tree)
  | [] => []
  | (name, document, _) :: more =>
    (spelledString name.spelled, document.tree) :: memberTrees more

end

mutual

/-- The text of a document, without white space around it. -/
def chars : Document → List Char
  | null => ['n', 'u', 'l', 'l']
  | boolean true => ['t', 'r', 'u', 'e']
  | boolean false => ['f', 'a', 'l', 's', 'e']
  | number written => written.text
  | text spelled => spelledText spelled
  | list space elements =>
    '[' :: (space.chars ++ commaJoined (elementTexts elements)) ++ [']']
  | object space members =>
    '\x7b' :: (space.chars ++ commaJoined (memberTexts members)) ++ ['\x7d']

def elementTexts : List (Space × Document × Space) → List (List Char)
  | [] => []
  | (before, document, after) :: more =>
    (before.chars ++ document.chars ++ after.chars) :: elementTexts more

def memberTexts : List (MemberName × Document × Space) → List (List Char)
  | [] => []
  | (name, document, after) :: more =>
    (name.text ++ document.chars ++ after.chars) :: memberTexts more

end

theorem sizeOf_element_lt {space : Space} {elements : List (Space × Document × Space)}
    {element : Space × Document × Space} (inside : element ∈ elements) :
    sizeOf element.2.1 < sizeOf (list space elements) := by
  have smaller := List.sizeOf_lt_of_mem inside
  obtain ⟨before, document, after⟩ := element
  simp only [Prod.mk.sizeOf_spec, list.sizeOf_spec] at smaller ⊢
  omega

theorem sizeOf_member_lt {space : Space} {members : List (MemberName × Document × Space)}
    {member : MemberName × Document × Space} (inside : member ∈ members) :
    sizeOf member.2.1 < sizeOf (object space members) := by
  have smaller := List.sizeOf_lt_of_mem inside
  obtain ⟨name, document, after⟩ := member
  simp only [Prod.mk.sizeOf_spec, object.sizeOf_spec] at smaller ⊢
  omega

/-- A property of documents that passes from elements and members to the list or
object is one of all documents. -/
@[elab_as_elim]
theorem induction
    {motive : Document → Prop}
    (null : motive .null)
    (boolean : ∀ value, motive (.boolean value))
    (number : ∀ written, motive (.number written))
    (text : ∀ spelled, motive (.text spelled))
    (list : ∀ space elements,
      (∀ element ∈ elements, motive element.2.1) → motive (.list space elements))
    (object : ∀ space members,
      (∀ member ∈ members, motive member.2.1) → motive (.object space members))
    (document : Document) :
    motive document :=
  match document with
  | .null => null
  | .boolean value => boolean value
  | .number written => number written
  | .text spelled => text spelled
  | .list space elements =>
    list space elements fun element _ =>
      induction null boolean number text list object element.2.1
  | .object space members =>
    object space members fun member _ =>
      induction null boolean number text list object member.2.1
termination_by document
decreasing_by
  · exact sizeOf_element_lt ‹element ∈ elements›
  · exact sizeOf_member_lt ‹member ∈ members›

/-! ## Elements and members -/

def elementText (element : Space × Document × Space) : List Char :=
  element.1.chars ++ element.2.1.chars ++ element.2.2.chars

def memberText (member : MemberName × Document × Space) : List Char :=
  member.1.text ++ member.2.1.chars ++ member.2.2.chars

def memberTree (member : MemberName × Document × Space) : String × Tree :=
  (spelledString member.1.spelled, member.2.1.tree)

section Entries

variable {space : Space} {elements : List (Space × Document × Space)}
  {members : List (MemberName × Document × Space)}

theorem elementTrees_eq : elementTrees elements = elements.map fun element => element.2.1.tree := by
  induction elements with
  | nil => rfl
  | cons element more inductionHypothesis =>
      rw [elementTrees, inductionHypothesis, List.map_cons]

theorem memberTrees_eq : memberTrees members = members.map memberTree := by
  induction members with
  | nil => rfl
  | cons member more inductionHypothesis =>
      rw [memberTrees, inductionHypothesis, List.map_cons, memberTree]

theorem elementTexts_eq : elementTexts elements = elements.map elementText := by
  induction elements with
  | nil => rfl
  | cons element more inductionHypothesis =>
      rw [elementTexts, inductionHypothesis, List.map_cons, elementText]

theorem memberTexts_eq : memberTexts members = members.map memberText := by
  induction members with
  | nil => rfl
  | cons member more inductionHypothesis =>
      rw [memberTexts, inductionHypothesis, List.map_cons, memberText]

theorem tree_list : (list space elements).tree = .list (elements.map fun element => element.2.1.tree) := by
  rw [tree, elementTrees_eq]

theorem tree_object : (object space members).tree = .object (members.map memberTree) := by
  rw [tree, memberTrees_eq]

theorem chars_list :
    (list space elements).chars
      = '[' :: (space.chars ++ commaJoined (elements.map elementText)) ++ [']'] := by
  rw [chars, elementTexts_eq]

theorem chars_object :
    (object space members).chars
      = '\x7b' :: (space.chars ++ commaJoined (members.map memberText)) ++ ['\x7d'] := by
  rw [chars, memberTexts_eq]

/-- A list has at most as many elements as its text has characters. -/
theorem length_elements_le : elements.length ≤ (list space elements).chars.length := by
  have pieces := length_le_commaJoined (elements.map elementText)
  rw [List.length_map] at pieces
  simp only [chars_list, List.length_append, List.length_cons]
  omega

/-- An object has at most as many members as its text has characters. -/
theorem length_members_le : members.length ≤ (object space members).chars.length := by
  have pieces := length_le_commaJoined (members.map memberText)
  rw [List.length_map] at pieces
  simp only [chars_object, List.length_append, List.length_cons]
  omega

/-- The text of an element is part of the text of its list. -/
theorem length_le_list_of_mem {element : Space × Document × Space} (inside : element ∈ elements) :
    element.2.1.chars.length ≤ (list space elements).chars.length := by
  have piece := length_le_commaJoined_of_mem (List.mem_map_of_mem (f := elementText) inside)
  simp only [elementText, List.length_append] at piece
  simp only [chars_list, List.length_append, List.length_cons]
  omega

/-- The text of the value of a member is part of the text of its object. -/
theorem length_le_object_of_mem {member : MemberName × Document × Space}
    (inside : member ∈ members) :
    member.2.1.chars.length ≤ (object space members).chars.length := by
  have piece := length_le_commaJoined_of_mem (List.mem_map_of_mem (f := memberText) inside)
  simp only [memberText, List.length_append] at piece
  simp only [chars_object, List.length_append, List.length_cons]
  omega

end Entries

/-! ## First characters -/

/-- The first character of a document tells its kind, and is none that may come
after a value. -/
structure Heads (document : Document) (c : Char) : Prop where
  inside : isBoundary c = false
  null : c = 'n' ↔ document = .null
  number : c = '-' ∨ c.isDigit = true ↔ ∃ written, document = .number written
  text : c = '"' ↔ ∃ spelled, document = .text spelled
  list : c = '[' ↔ ∃ space elements, document = .list space elements
  object : c = '\x7b' ↔ ∃ space members, document = .object space members

theorem chars_eq_cons (document : Document) :
    ∃ c more, document.chars = c :: more ∧ document.Heads c := by
  cases document with
  | null => exact ⟨'n', _, by rw [chars], by decide, by simp, by simp, by simp, by simp, by simp⟩
  | boolean value =>
      cases value with
      | true =>
          exact ⟨'t', _, by rw [chars], by decide, by simp, by simp, by simp, by simp, by simp⟩
      | false =>
          exact ⟨'f', _, by rw [chars], by decide, by simp, by simp, by simp, by simp, by simp⟩
  | number written =>
      obtain ⟨c, more, spelled, numeric⟩ := written.text_eq_cons
      have inside : isBoundary c = false := by
        rcases numeric with rfl | digit
        · decide
        · exact not_isBoundary_of_isDigit digit
      have other {d : Char} (strange : d ≠ '-' ∧ d.isDigit = false) : c ≠ d := by
        rintro rfl
        simp [strange] at numeric
      refine ⟨c, more, by rw [chars, spelled], inside, ?_, by simp [numeric], ?_, ?_, ?_⟩
      · simpa using other (d := 'n') (by decide)
      · simpa using other (d := '"') (by decide)
      · simpa using other (d := '[') (by decide)
      · simpa using other (d := '\x7b') (by decide)
  | text spelled =>
      exact ⟨'"', _, by rw [chars, spelledText]; rfl, by decide, by simp, by simp, by simp, by simp,
        by simp⟩
  | list space elements =>
      exact ⟨'[', _, by rw [chars]; rfl, by decide, by simp, by simp, by simp, by simp, by simp⟩
  | object space members =>
      exact ⟨'\x7b', _, by rw [chars]; rfl, by decide, by simp, by simp, by simp, by simp, by simp⟩

end Document

end Findings.Json
