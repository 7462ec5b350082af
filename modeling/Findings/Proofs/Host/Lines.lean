import Mathlib
import Findings.Host.Scan

/-!
Contract: the lines of a file.

Owns:
- `contentLines`, the lines of a content: those that a line feed ends, and what
  stands behind the last one unless it is empty;
- their number, which is the one that a scan counts, unless a number of 32 bits is
  too small for it.

Does not own: which files are looked at.
-/

namespace Findings

/-- The lines of a content that a line feed ends, without the line feeds. -/
def finishedLines (content : List UInt8) : List (List UInt8) :=
  (content.splitOn 0x0A).dropLast

/-- What stands behind the last line feed of a content. -/
def unfinishedLine (content : List UInt8) : List UInt8 :=
  (content.splitOn 0x0A).getLastD []

/-- The lines of a content; what is unfinished is a line unless it is empty. -/
def contentLines (content : List UInt8) : List (List UInt8) :=
  finishedLines content ++ if unfinishedLine content = [] then [] else [unfinishedLine content]

section Lines

variable {content front tail : List UInt8}

/-- There are as many finished lines as line feeds. -/
theorem length_finishedLines : (finishedLines content).length = content.countP (· = 0x0A) := by
  have parts : (content.splitOn 0x0A).length = content.countP (· = 0x0A) + 1 := by
    induction content with
    | nil => rfl
    | cons octet more inductionHypothesis =>
      rw [List.splitOn_cons_eq_if_modifyHead, List.countP_cons]
      by_cases ends : octet = 0x0A
      · simp [ends, inductionHypothesis]
      · simp [ends, inductionHypothesis]
  rw [finishedLines, List.length_dropLast, parts, Nat.add_sub_cancel]

theorem unfinishedLine_of_not_mem (noEnd : 0x0A ∉ tail) : unfinishedLine tail = tail := by
  rw [unfinishedLine, List.splitOn_eq_singleton noEnd]
  rfl

theorem unfinishedLine_append (noEnd : 0x0A ∉ tail) :
    unfinishedLine (front ++ 0x0A :: tail) = tail := by
  rw [unfinishedLine, List.splitOn_append_cons_self, List.splitOn_eq_singleton noEnd,
    List.getLastD_concat]

/-- Nothing is unfinished exactly where the content ends with a line, if it holds
anything. -/
theorem unfinishedLine_eq_nil_iff :
    unfinishedLine content = [] ↔ content = [] ∨ content.getLast? = some 0x0A := by
  by_cases ended : 0x0A ∈ content
  · -- The last line feed is the first one from behind.
    obtain ⟨back, front, split, noEnd⟩ :=
      List.eq_append_cons_of_mem (List.mem_reverse.mpr ended)
    obtain rfl : content = front.reverse ++ 0x0A :: back.reverse := by
      rw [← List.reverse_reverse content, split]
      simp
    rw [unfinishedLine_append (by simpa using noEnd), List.getLast?_append_cons]
    cases back with
    | nil => simp
    | cons octet more =>
      have other : octet ≠ 0x0A := fun same => noEnd (same ▸ List.mem_cons_self)
      simp [List.getLast?_cons, other]
  · rw [unfinishedLine_of_not_mem ended]
    have others : content.getLast? ≠ some 0x0A :=
      fun last => ended (List.mem_of_getLast? last)
    simp [others]

/-- The lines of a file are counted in 32 bits. -/
theorem lineCount_eq : lineCount content = UInt32.ofNat (contentLines content).length := by
  rw [contentLines, List.length_append, length_finishedLines, lineCount]
  cases last : content.getLast? with
  | none =>
    have finished : unfinishedLine content = [] :=
      unfinishedLine_eq_nil_iff.mpr (.inl (List.getLast?_eq_none_iff.mp last))
    simp [finished]
  | some octet =>
    have given : content ≠ [] := fun nothing => by simp [nothing] at last
    have finished : unfinishedLine content = [] ↔ octet = 0x0A := by
      rw [unfinishedLine_eq_nil_iff, last]
      simp [given]
    by_cases ends : octet = 0x0A
    · simp [finished.mpr ends, ends]
    · simp [mt finished.mp ends]

/-- No file has more lines than octets. -/
theorem length_contentLines_le : (contentLines content).length ≤ content.length := by
  rw [contentLines, List.length_append, length_finishedLines]
  split
  case isTrue => simpa using List.countP_le_length
  case isFalse unfinished =>
    rw [unfinishedLine_eq_nil_iff, not_or] at unfinished
    obtain ⟨octet, last⟩ := Option.isSome_iff_exists.mp (List.getLast?_isSome.mpr unfinished.1)
    -- The last octet is none of the line feeds.
    have fewer : content.countP (· = 0x0A) < content.length :=
      List.countP_lt_length_iff.mpr ⟨octet, List.mem_of_getLast? last,
        decide_eq_false fun ends => unfinished.2 (ends ▸ last)⟩
    simpa using fewer

/-- The number of lines that a scan counts is the true one, modulo the numbers of 32
bits. -/
theorem toNat_lineCount :
    (lineCount content).toNat = (contentLines content).length % UInt32.size := by
  rw [lineCount_eq, UInt32.toNat_ofNat']

/-- In a file of fewer octets than there are numbers no line is lost. -/
theorem length_contentLines_mod (short : content.length < UInt32.size - 1) :
    (contentLines content).length % UInt32.size = (contentLines content).length := by
  have fewer := @length_contentLines_le content
  exact Nat.mod_eq_of_lt (by omega)

theorem toNat_lineCount_of_lt (short : content.length < UInt32.size - 1) :
    (lineCount content).toNat = (contentLines content).length := by
  rw [toNat_lineCount, length_contentLines_mod short]

end Lines

end Findings
