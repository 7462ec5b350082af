import Mathlib
import Findings.Proofs.Elements
import Findings.Proofs.Json.Depicts
import Findings.Proofs.Json.Skip

/-!
Contract: what is passed over is a document.

Owns:
- `Closes`, the text that completes the brackets that are open;
- what each state of the reader still asks of the text, and the law that a turn
  takes the front of a text that satisfies it;
- the law for whole values.

Does not own: what the values say.  Surrogates that stand alone and numbers of any
size are passed over.
-/

namespace Findings.Json

variable {text rest behind : List Char} {bracket : Bracket} {enclosing : List Bracket}

/-! ## Entries -/

/-- A piece of text is an entry of a bracket: an element, or a member. -/
def IsEntry : Bracket → List Char → Prop
  | .list, piece =>
    ∃ element : DepictedElement, piece = element.text ∧ Depicts element.piece element.tree
  | .object, piece =>
    ∃ member : DepictedMember, piece = member.text ∧ Depicts member.piece member.tree

/-- Entries between brackets are a list or an object. -/
theorem exists_depicts_bracket {pieces : List (List Char)} (space : Space)
    (entries : ∀ piece ∈ pieces, IsEntry bracket piece) :
    ∃ tree, Depicts (bracket.opening :: (space.chars ++ commaJoined pieces) ++ [bracket.closing])
      tree := by
  cases bracket with
  | list =>
      obtain ⟨elements, rfl, each⟩ := exists_map_of_forall entries
      exact ⟨_, .list space elements each⟩
  | object =>
      obtain ⟨members, rfl, each⟩ := exists_map_of_forall entries
      exact ⟨_, .object space members each⟩

/-! ## States -/

/-- A text completes the brackets that are open, after an entry of the innermost, and
leaves the rest. -/
def Closes : List Bracket → List Char → List Char → Prop
  | [], text, rest => text = rest
  | bracket :: enclosing, text, rest =>
    ∃ (gap : Space) (pieces : List (List Char)) (behind : List Char),
      (∀ piece ∈ pieces, IsEntry bracket piece)
        ∧ text = gap.chars ++ (afterCommas pieces ++ bracket.closing :: behind)
        ∧ Closes enclosing behind rest

/-- A text completes what a state of the reader is in, and leaves the rest. -/
def SkipState.Completes (text rest : List Char) : SkipState → Prop
  | .value enclosing =>
    ∃ (before : Space) (piece : List Char) (tree : Tree) (behind : List Char),
      text = before.chars ++ (piece ++ behind) ∧ Depicts piece tree ∧ Closes enclosing behind rest
  | .opened bracket enclosing =>
    ∃ (space : Space) (pieces : List (List Char)) (behind : List Char),
      (∀ piece ∈ pieces, IsEntry bracket piece)
        ∧ text = space.chars ++ (commaJoined pieces ++ bracket.closing :: behind)
        ∧ Closes enclosing behind rest
  | .entry enclosing => Closes enclosing text rest

theorem of_then_entry (text : List Char) {passed : Reader Unit} {state : SkipState}
    (taken : (passed >>= fun _ => pure (.entry enclosing)).run? text = some (state, behind)) :
    passed.run? text = some ((), behind) ∧ state = .entry enclosing := by
  simp only [Reader.run?_bind, Reader.run?_pure, Option.bind_eq_some_iff, Option.some.injEq,
    Prod.mk.injEq] at taken
  obtain ⟨⟨⟨⟩, after⟩, front, rfl, rfl⟩ := taken
  exact ⟨front, rfl⟩

/-- Entries between brackets are a value, and what completes the brackets around it
comes behind it. -/
theorem completes_of_opened (space : Space)
    (spelled : text = space.chars ++ bracket.opening :: behind)
    (completes : (SkipState.opened bracket enclosing).Completes behind rest) :
    (SkipState.value enclosing).Completes text rest := by
  obtain ⟨inner, pieces, after, entries, inside, closes⟩ := completes
  obtain ⟨tree, depicts⟩ := exists_depicts_bracket inner entries
  refine ⟨space, _, tree, after, ?_, depicts, closes⟩
  rw [spelled, inside]
  simp

/-- A value that is taken is followed by what completes the brackets around it. -/
theorem completes_of_skipHead {state : SkipState}
    (taken : (skipHead enclosing).run? text = some (state, behind))
    (completes : state.Completes behind rest) :
    (SkipState.value enclosing).Completes text rest := by
  unfold skipHead at taken
  replace taken := of_skipSpace taken
  obtain ⟨space, front, rfl, taken⟩ := taken
  cases front with
  | nil => simp at taken
  | cons c front =>
      simp only [List.head?_cons] at taken
      split at taken
      · rename_i null
        obtain ⟨passed, rfl⟩ := of_then_entry front taken
        rw [null, eq_of_run?_literalRest passed]
        exact ⟨space, _, _, behind, rfl, .null, completes⟩
      split at taken
      · rename_i yes
        obtain ⟨passed, rfl⟩ := of_then_entry front taken
        rw [yes, eq_of_run?_literalRest passed]
        exact ⟨space, _, _, behind, rfl, .yes, completes⟩
      split at taken
      · rename_i no
        obtain ⟨passed, rfl⟩ := of_then_entry front taken
        rw [no, eq_of_run?_literalRest passed]
        exact ⟨space, _, _, behind, rfl, .no, completes⟩
      split at taken
      · rename_i minus
        obtain ⟨passed, rfl⟩ := of_then_entry front taken
        obtain ⟨number, negative, spelled⟩ := exists_number true passed
        refine ⟨space, number.text, _, behind, ?_, .number number, completes⟩
        rw [minus, spelled, NumberText.text, negative, if_pos rfl, List.cons_append]
      split at taken
      · obtain ⟨passed, rfl⟩ := of_then_entry _ taken
        obtain ⟨number, unsigned, spelled⟩ := exists_number false passed
        refine ⟨space, number.text, _, behind, ?_, .number number, completes⟩
        rw [spelled, NumberText.text, unsigned, if_neg (by simp)]
      split at taken
      · rename_i quote
        obtain ⟨passed, rfl⟩ := of_then_entry front taken
        obtain ⟨written, spelled⟩ := exists_written_of_skipStringRest passed
        refine ⟨space, writtenText written, _, behind, ?_, .text written, completes⟩
        rw [quote, spelled]
        simp [writtenText]
      split at taken
      · rename_i opening
        obtain ⟨rfl, rfl⟩ : SkipState.opened .list enclosing = state ∧ front = behind := by
          simpa using taken
        exact completes_of_opened space (by rw [opening]; rfl) completes
      split at taken
      · rename_i opening
        obtain ⟨rfl, rfl⟩ : SkipState.opened .object enclosing = state ∧ front = behind := by
          simpa using taken
        exact completes_of_opened space (by rw [opening]; rfl) completes
      · simp at taken

/-- The name of a member stands before a colon. -/
theorem exists_name {state : SkipState}
    (taken : (skipEntryName .object enclosing).run? text = some (state, behind)) :
    state = .value (.object :: enclosing)
      ∧ ∃ (before : Space) (name : List WrittenChar) (beforeColon : Space),
        text = before.chars ++ (writtenText name ++ (beforeColon.chars ++ ':' :: behind)) := by
  rw [skipEntryName, if_pos rfl] at taken
  replace taken := of_skipSpace taken
  obtain ⟨before, front, rfl, taken⟩ := taken
  cases front with
  | nil => simp at taken
  | cons c front =>
      simp only [List.head?_cons] at taken
      split at taken
      · rename_i quote
        rw [Reader.run?_bind, Reader.run?_skipOne, Option.bind_some, Reader.run?_bind,
          Option.bind_eq_some_iff] at taken
        obtain ⟨⟨⟨⟩, after⟩, string, taken⟩ := taken
        obtain ⟨name, named⟩ : ∃ name : List WrittenChar,
            front = name.flatMap WrittenChar.text ++ '"' :: after :=
          exists_written_of_skipStringRest string
        replace taken := of_skipSpace taken
        obtain ⟨beforeColon, rest, rfl, taken⟩ := taken
        cases rest with
        | nil => simp at taken
        | cons c rest =>
            simp only [List.head?_cons] at taken
            split at taken
            · rename_i colon
              obtain ⟨rfl, rfl⟩ : SkipState.value (.object :: enclosing) = state ∧ rest = behind := by
                simpa using taken
              refine ⟨rfl, before, name, beforeColon, ?_⟩
              rw [quote, named, colon]
              simp [writtenText]
            · simp at taken
      · simp at taken

/-- The name of an entry and its value come before the entries that follow. -/
theorem entries_of_skipEntryName {state : SkipState}
    (taken : (skipEntryName bracket enclosing).run? text = some (state, behind))
    (completes : state.Completes behind rest) :
    ∃ (piece : List Char) (pieces : List (List Char)) (after : List Char),
      (∀ entry ∈ piece :: pieces, IsEntry bracket entry)
        ∧ text = piece ++ (afterCommas pieces ++ bracket.closing :: after)
        ∧ Closes enclosing after rest := by
  cases bracket with
  | list =>
      obtain ⟨rfl, rfl⟩ : SkipState.value (.list :: enclosing) = state ∧ text = behind := by
        simpa [skipEntryName] using taken
      obtain ⟨before, piece, tree, _, rfl, depicts, gap, pieces, after, entries, rfl, closes⟩ :=
        completes
      let element : DepictedElement := ⟨before, piece, tree, gap⟩
      refine ⟨element.text, pieces, after, ?_, ?_, closes⟩
      · exact List.forall_mem_cons.mpr ⟨⟨element, rfl, depicts⟩, entries⟩
      · simp [element, DepictedElement.text]
  | object =>
      obtain ⟨rfl, space, name, beforeColon, rfl⟩ := exists_name taken
      obtain ⟨before, piece, tree, _, rfl, depicts, gap, pieces, after, entries, rfl, closes⟩ :=
        completes
      let member : DepictedMember := ⟨space, name, beforeColon, before, piece, tree, gap⟩
      refine ⟨member.text, pieces, after, ?_, ?_, closes⟩
      · exact List.forall_mem_cons.mpr ⟨⟨member, rfl, depicts⟩, entries⟩
      · simp [member, DepictedMember.text]

/-- A turn takes the front of what completes its state. -/
theorem completes_of_skipStep {state next : SkipState}
    (taken : (skipStep state).run? text = some (some next, behind))
    (completes : next.Completes behind rest) : state.Completes text rest := by
  cases state with
  | value enclosing =>
      obtain ⟨state, head, rfl⟩ : ∃ state, (skipHead enclosing).run? text = some (state, behind)
          ∧ state = next := by
        simpa [skipStep] using taken
      exact completes_of_skipHead head completes
  | opened bracket enclosing =>
      rw [skipStep] at taken
      replace taken := of_skipSpace taken
      obtain ⟨space, front, rfl, taken⟩ := taken
      cases front with
      | nil => simp at taken
      | cons c front =>
          simp only [List.head?_cons] at taken
          split at taken
          · rename_i closing
            obtain ⟨rfl, rfl⟩ : SkipState.entry enclosing = next ∧ front = behind := by
              simpa using taken
            exact ⟨space, [], front, by simp, by rw [closing]; rfl, completes⟩
          · obtain ⟨state, name, rfl⟩ : ∃ state,
                (skipEntryName bracket enclosing).run? (c :: front) = some (state, behind)
                  ∧ state = next := by
              simpa using taken
            obtain ⟨piece, pieces, after, entries, whole, closes⟩ :=
              entries_of_skipEntryName name completes
            refine ⟨space, piece :: pieces, after, entries, ?_, closes⟩
            rw [whole, commaJoined, List.append_assoc]
  | entry enclosing =>
      cases enclosing with
      | nil => simp [skipStep] at taken
      | cons bracket enclosing =>
          rw [skipStep] at taken
          replace taken := of_skipSpace taken
          obtain ⟨space, front, rfl, taken⟩ := taken
          cases front with
          | nil => simp at taken
          | cons c front =>
              simp only [List.head?_cons] at taken
              split at taken
              · rename_i comma
                obtain ⟨state, name, rfl⟩ : ∃ state,
                    (skipEntryName bracket enclosing).run? front = some (state, behind)
                      ∧ state = next := by
                  simpa using taken
                obtain ⟨piece, pieces, after, entries, whole, closes⟩ :=
                  entries_of_skipEntryName name completes
                refine ⟨space, piece :: pieces, after, entries, ?_, closes⟩
                rw [comma, whole, afterCommas_cons, List.cons_append, List.append_assoc]
              split at taken
              · rename_i closing
                obtain ⟨rfl, rfl⟩ : SkipState.entry enclosing = next ∧ front = behind := by
                  simpa using taken
                exact ⟨space, [], front, by simp, by rw [closing]; rfl, completes⟩
              · simp at taken

/-- The reader stops only when nothing is open, and leaves the rest untouched. -/
theorem closes_of_skipStep_none {state : SkipState}
    (taken : (skipStep state).run? text = some (none, rest)) : state.Completes text rest := by
  cases state with
  | value enclosing => simp [skipStep] at taken
  | opened bracket enclosing =>
      exfalso
      simp only [skipStep, Reader.run?_bind, Reader.run?_skipSpace, Reader.run?_peek?,
        Option.bind_some] at taken
      repeat' split at taken
      all_goals simp at taken
  | entry enclosing =>
      cases enclosing with
      | nil => simpa [skipStep, SkipState.Completes, Closes] using taken
      | cons bracket enclosing =>
          exfalso
          simp only [skipStep, Reader.run?_bind, Reader.run?_skipSpace, Reader.run?_peek?,
            Option.bind_some] at taken
          repeat' split at taken
          all_goals simp at taken

theorem completes_of_skipTurns {turns : Nat} {state : SkipState}
    (taken : (skipTurns turns state).run? text = some ((), rest)) :
    state.Completes text rest := by
  induction turns generalizing state text with
  | zero => simp [skipTurns] at taken
  | succ turns inductionHypothesis =>
      simp only [skipTurns, Reader.run?_bind, Option.bind_eq_some_iff] at taken
      obtain ⟨⟨next, behind⟩, step, later⟩ := taken
      cases next with
      | some next => exact completes_of_skipStep step (inductionHypothesis later)
      | none =>
          obtain rfl : behind = rest := by simpa using later
          exact closes_of_skipStep_none step

/-- What is passed over is a document. -/
theorem exists_depicts_of_skipValue {bound : Nat}
    (taken : (skipValue bound).run? text = some ((), rest)) :
    ∃ (before : Space) (piece : List Char) (tree : Tree),
      text = before.chars ++ (piece ++ rest) ∧ Depicts piece tree := by
  obtain ⟨before, piece, tree, behind, spelled, depicts, rfl⟩ := completes_of_skipTurns taken
  exact ⟨before, piece, tree, spelled, depicts⟩

end Findings.Json
