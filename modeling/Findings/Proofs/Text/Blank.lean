import Mathlib.Data.List.TakeWhile
import Findings.Text.Blank

/-!
Contract: what is left of a text when white space is taken away, said without the
steps that take it away.

Owns:
- `Core`, the text between surrounding white space, of which there is exactly one;
- `BeginsWith`, the first word of a text, of which there is exactly one too;
- the laws that `trim` and `firstWord` find them.

Does not own: which characters are white space.
-/

namespace Findings.Text

variable {text core other front back word rest : List Char}

/-! ## White space -/

def Blank (text : List Char) : Prop :=
  ∀ c ∈ text, isBlank c = true

def Solid (text : List Char) : Prop :=
  ∀ c ∈ text, isBlank c = false

/-- A text that does not start with white space. -/
def StartsSolid (text : List Char) : Prop :=
  ∀ c ∈ text.head?, isBlank c = false

instance : Decidable (Blank text) :=
  List.decidableBAll (fun c => isBlank c = true) text

instance : Decidable (Solid text) :=
  List.decidableBAll (fun c => isBlank c = false) text

theorem blank_reverse (blank : Blank text) : Blank text.reverse :=
  fun c member => blank c (List.mem_reverse.mp member)

theorem startsSolid_cons {c : Char} : StartsSolid (c :: text) ↔ isBlank c = false := by
  simp [StartsSolid]

/-! ## Leading white space -/

theorem trimLeft_append (blank : Blank front) : trimLeft (front ++ text) = trimLeft text :=
  List.dropWhile_append_of_pos blank

theorem trimLeft_of_blank (blank : Blank text) : trimLeft text = [] :=
  List.dropWhile_eq_nil_iff.mpr blank

theorem trimLeft_of_startsSolid (starts : StartsSolid text) : trimLeft text = text := by
  cases text with
  | nil => rfl
  | cons c text => exact List.dropWhile_cons_of_neg (by simp [startsSolid_cons.mp starts])

theorem startsSolid_trimLeft (text : List Char) : StartsSolid (trimLeft text) := by
  intro c first
  have stopped := List.head?_dropWhile_not isBlank text
  rw [trimLeft] at first
  rw [Option.mem_def.mp first] at stopped
  simpa using stopped

/-- What is taken off the front is white space. -/
theorem exists_front (text : List Char) : ∃ front, Blank front ∧ text = front ++ trimLeft text := by
  refine ⟨text.takeWhile isBlank, fun c => List.mem_takeWhile_imp, ?_⟩
  exact List.takeWhile_append_dropWhile.symm

/-! ## Surrounding white space -/

/-- A text is the core between white space on both sides, and the core has no white
space at its ends. -/
structure Core (text core : List Char) : Prop where
  between : ∃ front back, Blank front ∧ Blank back ∧ text = front ++ core ++ back
  starts : StartsSolid core
  ends : StartsSolid core.reverse

/-- A text has only one core. -/
theorem Core.eq_trim (cored : Core text core) : core = trim text := by
  obtain ⟨front, back, blankFront, blankBack, rfl⟩ := cored.between
  rw [trim, List.append_assoc, trimLeft_append blankFront]
  cases core with
  | nil =>
    rw [List.nil_append, trimLeft_of_blank blankBack]
    rfl
  | cons c core =>
    have starts : StartsSolid (c :: core ++ back) :=
      startsSolid_cons.mpr (startsSolid_cons.mp cored.starts)
    rw [trimLeft_of_startsSolid starts, List.reverse_append,
      trimLeft_append (blank_reverse blankBack), trimLeft_of_startsSolid cored.ends,
      List.reverse_reverse]

theorem core_trim (text : List Char) : Core text (trim text) := by
  obtain ⟨front, blankFront, taken⟩ := exists_front text
  obtain ⟨back, blankBack, cut⟩ := exists_front (trimLeft text).reverse
  have inner : trimLeft text = trim text ++ back.reverse := by
    rw [trim, ← List.reverse_append, ← cut, List.reverse_reverse]
  refine ⟨⟨front, back.reverse, blankFront, blank_reverse blankBack, ?_⟩, ?starts, ?ends⟩
  · rw [List.append_assoc, ← inner, ← taken]
  case starts =>
    -- The core is the front of a text that starts solid.
    cases found : trim text with
    | nil => simp [StartsSolid]
    | cons c core =>
      have starts := startsSolid_trimLeft text
      rw [inner, found] at starts
      exact startsSolid_cons.mpr (startsSolid_cons.mp starts)
  case ends =>
    rw [trim, List.reverse_reverse]
    exact startsSolid_trimLeft _

/-- The core of a text is what is left when it is trimmed. -/
theorem core_iff : Core text core ↔ core = trim text := by
  constructor
  · exact Core.eq_trim
  · rintro rfl
    exact core_trim text

/-- A text without white space at its ends is its own core. -/
theorem trim_of_ends (starts : StartsSolid text) (ends : StartsSolid text.reverse) :
    trim text = text :=
  (Core.eq_trim ⟨⟨[], [], by simp [Blank], by simp [Blank], by simp⟩, starts, ends⟩).symm

theorem trim_trim : trim (trim text) = trim text :=
  trim_of_ends (core_trim text).starts (core_trim text).ends

/-! ## First words -/

/-- A text is white space, a word, and a rest that goes on with white space.  The word
is empty only in a text of white space. -/
structure BeginsWith (text word : List Char) : Prop where
  solid : Solid word
  split : ∃ front rest, Blank front ∧ text = front ++ word ++ rest
    ∧ (∀ c ∈ rest.head?, isBlank c = true) ∧ (word = [] → rest = [])

/-- A word between white space is the first word, whatever comes behind it. -/
theorem firstWord_append (blank : Blank front) (solid : Solid word)
    (ended : ∀ c ∈ rest.head?, isBlank c = true) (full : word = [] → rest = []) :
    firstWord (front ++ word ++ rest) = word := by
  have starts : StartsSolid (word ++ rest) := by
    cases word with
    | nil => simp [full rfl, StartsSolid]
    | cons c word => exact startsSolid_cons.mpr (solid c List.mem_cons_self)
  rw [firstWord, List.append_assoc, trimLeft_append blank, trimLeft_of_startsSolid starts,
    List.takeWhile_append_of_pos fun c member => by simp [solid c member]]
  cases rest with
  | nil => exact List.append_nil word
  | cons c rest =>
    have stops : isBlank c = true := ended c (by simp)
    simp [stops]

theorem BeginsWith.eq_firstWord (begins : BeginsWith text word) : word = firstWord text := by
  obtain ⟨front, rest, blank, rfl, ended, full⟩ := begins.split
  exact (firstWord_append blank begins.solid ended full).symm

theorem beginsWith_firstWord (text : List Char) : BeginsWith text (firstWord text) := by
  obtain ⟨front, blank, taken⟩ := exists_front text
  refine ⟨?solid, front, (trimLeft text).dropWhile fun c => !isBlank c, blank, ?split, ?ended,
    ?full⟩
  case solid =>
    intro c member
    simpa using List.mem_takeWhile_imp member
  case split =>
    rw [firstWord, List.append_assoc, List.takeWhile_append_dropWhile, ← taken]
  case ended =>
    intro c first
    have stopped := List.head?_dropWhile_not (fun c => !isBlank c) (trimLeft text)
    rw [Option.mem_def.mp first] at stopped
    simpa using stopped
  case full =>
    intro empty
    -- What follows white space would start the word.
    cases found : trimLeft text with
    | nil => rfl
    | cons c more =>
      have starts := startsSolid_trimLeft text
      rw [found, startsSolid_cons] at starts
      simp [firstWord, found, starts] at empty

/-- A text begins with its first word and with no other. -/
theorem beginsWith_iff : BeginsWith text word ↔ word = firstWord text := by
  constructor
  · exact BeginsWith.eq_firstWord
  · rintro rfl
    exact beginsWith_firstWord text

/-- A text is its own first word exactly if it has no white space. -/
theorem firstWord_eq_self_iff : firstWord text = text ↔ Solid text := by
  constructor
  · intro same
    rw [← same]
    exact (beginsWith_firstWord text).solid
  · intro solid
    have alone : firstWord ([] ++ text ++ []) = text :=
      firstWord_append (by simp [Blank]) solid (by simp) (fun _ => rfl)
    simpa using alone

theorem beginsWith_self_iff : BeginsWith text text ↔ Solid text := by
  rw [beginsWith_iff, eq_comm, firstWord_eq_self_iff]

end Findings.Text
