import Findings.Proofs.Json.Numeral

/-!
Contract: the compact text of JSON values.

Owns:
- pieces of text with commas between them, which elements and members are;
- the law that no value starts with a character that may come after a value,
  and that nothing but null starts with its first letter;
- the bounds on the number of elements and members, and on their texts, by the
  length of the whole text.

Does not own: reading.
-/

namespace Findings.Json

/-! ## Commas -/

def afterCommas (pieces : List (List Char)) : List Char :=
  pieces.flatMap fun piece => ',' :: piece

def commaJoined : List (List Char) → List Char
  | [] => []
  | piece :: more => piece ++ afterCommas more

section Commas

variable {piece : List Char} {pieces : List (List Char)}

theorem afterCommas_cons : afterCommas (piece :: pieces) = ',' :: (piece ++ afterCommas pieces) :=
  rfl

theorem length_le_afterCommas (pieces : List (List Char)) : pieces.length ≤ (afterCommas pieces).length := by
  induction pieces with
  | nil => exact Nat.le_refl 0
  | cons piece more inductionHypothesis =>
      simp only [afterCommas, List.flatMap_cons, List.length_append, List.length_cons] at *
      omega

theorem length_le_commaJoined (pieces : List (List Char)) : pieces.length ≤ (commaJoined pieces).length + 1 := by
  cases pieces with
  | nil => exact Nat.zero_le _
  | cons piece more =>
      have later := length_le_afterCommas more
      simp only [commaJoined, List.length_append, List.length_cons]
      omega

theorem length_le_afterCommas_of_mem (inside : piece ∈ pieces) :
    piece.length ≤ (afterCommas pieces).length := by
  have mapped : ',' :: piece ∈ pieces.map fun piece => ',' :: piece :=
    List.mem_map_of_mem inside
  have whole := (List.sublist_flatten_of_mem mapped).length_le
  rw [List.length_cons] at whole
  exact Nat.le_of_succ_le whole

theorem length_le_commaJoined_of_mem (inside : piece ∈ pieces) :
    piece.length ≤ (commaJoined pieces).length := by
  cases pieces with
  | nil => contradiction
  | cons first more =>
      rw [commaJoined, List.length_append]
      cases inside with
      | head => exact Nat.le_add_right _ _
      | tail _ later =>
          exact Nat.le_trans (length_le_afterCommas_of_mem later) (Nat.le_add_left _ _)

end Commas

namespace Value

variable {value : Value} {elements : List Value} {members : List (String × Value)}

/-! ## Elements and members -/

/-- The text of a member: its name, a colon and its value. -/
def memberText (member : String × Value) : List Char :=
  quote member.1.toList ++ ':' :: member.2.compact

theorem compactElements_eq : compactElements elements = commaJoined (elements.map compact) := by
  induction elements with
  | nil => rfl
  | cons value more inductionHypothesis =>
      cases more with
      | nil => simp [compactElements, commaJoined, afterCommas]
      | cons next more =>
          rw [compactElements, inductionHypothesis]
          · simp [commaJoined, afterCommas]
          · simp

theorem compactMembers_eq : compactMembers members = commaJoined (members.map memberText) := by
  induction members with
  | nil => rfl
  | cons member more inductionHypothesis =>
      cases more with
      | nil => simp [compactMembers, commaJoined, afterCommas, memberText]
      | cons next more =>
          rw [compactMembers, inductionHypothesis]
          · simp [commaJoined, afterCommas, memberText]
          · simp

theorem compact_list :
    (Value.list elements).compact = '[' :: commaJoined (elements.map compact) ++ [']'] := by
  rw [compact, compactElements_eq]

theorem compact_object :
    (Value.object members).compact = '\x7b' :: commaJoined (members.map memberText) ++ ['\x7d'] := by
  rw [compact, compactMembers_eq]

@[simp]
theorem toList_compactText : value.compactText.toList = value.compact :=
  String.toList_ofList

/-! ## First characters -/

/-- A value starts with a character that cannot come after a value, and if it is
not null, that character is not the first letter of null. -/
theorem compact_eq_cons (value : Value) :
    ∃ c more, value.compact = c :: more ∧ isBoundary c = false ∧ (value ≠ .null → c ≠ 'n') := by
  cases value with
  | null => exact ⟨'n', _, by rw [compact], by decide, by simp⟩
  | integer value =>
      rw [compact]
      by_cases nonneg : 0 ≤ value
      · obtain ⟨c, more, spelled, digit⟩ := toDigits_eq_cons value.toNat
        rw [integerText_of_nonneg nonneg]
        refine ⟨c, more, spelled, not_isBoundary_of_isDigit digit, ?_⟩
        rintro - rfl
        exact absurd digit (by decide)
      · rw [integerText_of_neg (Int.not_le.mp nonneg)]
        exact ⟨'-', _, rfl, by decide, by simp⟩
  | text value => exact ⟨'"', _, by rw [compact, quote]; rfl, by decide, by simp⟩
  | list elements => exact ⟨'[', _, by rw [compact]; rfl, by decide, by simp⟩
  | object members => exact ⟨'\x7b', _, by rw [compact]; rfl, by decide, by simp⟩

/-! ## Lengths -/

/-- A list has at most as many elements as its text has characters. -/
theorem length_elements_le : elements.length ≤ (Value.list elements).compact.length := by
  have pieces := length_le_commaJoined (elements.map compact)
  rw [List.length_map] at pieces
  simp only [compact_list, List.length_append, List.length_cons]
  omega

/-- An object has at most as many members as its text has characters. -/
theorem length_members_le : members.length ≤ (Value.object members).compact.length := by
  have pieces := length_le_commaJoined (members.map memberText)
  rw [List.length_map] at pieces
  simp only [compact_object, List.length_append, List.length_cons]
  omega

/-- The text of an element is part of the text of its list. -/
theorem length_le_list_of_mem (inside : value ∈ elements) :
    value.compact.length ≤ (Value.list elements).compact.length := by
  have piece := length_le_commaJoined_of_mem (List.mem_map_of_mem (f := compact) inside)
  simp only [compact_list, List.length_append, List.length_cons]
  omega

/-- The text of the value of a member is part of the text of its object. -/
theorem length_le_object_of_mem {name : String} (inside : (name, value) ∈ members) :
    value.compact.length ≤ (Value.object members).compact.length := by
  have piece := length_le_commaJoined_of_mem (List.mem_map_of_mem (f := memberText) inside)
  simp only [memberText, List.length_append, List.length_cons] at piece
  simp only [compact_object, List.length_append, List.length_cons]
  omega

end Value

end Findings.Json
