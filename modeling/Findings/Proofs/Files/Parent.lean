import Findings.Proofs.Files.Steps

/-!
Contract: the path around the last step of a path.

Owns:
- the law that a way to a folder does not depend on the steps to the same place that
  are taken on it;
- the path around a name that is joined to the path of a folder, which opens that
  folder, although slashes and steps to the same place are dropped from its end.

Does not own: paths that end in a step up.
-/

namespace Findings

variable {chars front : List Char} {base other name : String} {location : List String}

/-! ## Ends of paths -/

theorem dropEnd_suffix (chars : List Char) : dropEnd chars <:+ chars := by
  fun_induction dropEnd chars with
  | case1 path inductionHypothesis => exact inductionHypothesis.trans (List.suffix_cons _ _)
  | case2 path inductionHypothesis => exact inductionHypothesis.trans (List.suffix_cons _ _)
  | case3 path => exact List.suffix_refl path

/-- Only steps to the same place are dropped. -/
theorem settled_namesIn_dropEnd (chars : List Char) :
    World.settled (namesIn (dropEnd chars).reverse) = World.settled (namesIn chars.reverse) := by
  have nothing : namesIn [] = [] := rfl
  have here : namesIn ['.'] = ["."] := by decide
  fun_induction dropEnd chars with
  | case1 path inductionHypothesis =>
    rw [inductionHypothesis, List.reverse_cons, namesIn_append, nothing, List.append_nil]
  | case2 path inductionHypothesis =>
    rw [inductionHypothesis, List.reverse_cons, List.reverse_cons, List.reverse_cons,
      List.append_assoc, List.singleton_append, namesIn_append, namesIn_append, nothing, here]
    simp [World.settled]
  | case3 path => rfl

/-- A slash at the end of a path does not matter to what is dropped. -/
theorem dropEnd_frontOf : dropEnd (frontOf chars).reverse = dropEnd chars.reverse := by
  unfold frontOf
  split
  · rfl
  · rw [List.reverse_append, List.reverse_singleton, List.singleton_append, dropEnd]

theorem dropEnd_name (isName : IsName name) :
    dropEnd (name.toList.reverse ++ front) = name.toList.reverse ++ front := by
  have noSlash : '/' ∉ name.toList.reverse := by simpa using isName.noSlash
  have solid : name.toList.reverse ≠ [] := by simpa using isName.nonempty
  have notHere : name.toList.reverse ≠ ['.'] := by
    intro same
    apply isName.notHere
    rw [← String.toList_inj, ← List.reverse_reverse name.toList, same]
    rfl
  generalize name.toList.reverse = last at noSlash solid notHere
  match last with
  | [first] =>
    rw [List.singleton_append, dropEnd.eq_3]
    · rintro path ⟨⟩
      simp at noSlash
    · rintro path ⟨⟩
      exact notHere rfl
  | first :: second :: more =>
    rw [List.cons_append, dropEnd.eq_3]
    · rintro path ⟨⟩
      simp at noSlash
    · rintro path ⟨⟩
      simp at noSlash

theorem head?_frontOf_reverse (chars : List Char) :
    (frontOf chars).reverse = [] ∨ (frontOf chars).reverse.head? = some '/' := by
  rw [List.head?_reverse]
  unfold frontOf
  split
  case isTrue solid => exact solid.imp (by simp +contextual) id
  case isFalse => exact .inr List.getLast?_concat

/-- The path around a name below a path is that path without its end, or the top. -/
theorem parentPath_joinPath (isName : IsName name) :
    parentPath (joinPath base name)
      = if dropEnd base.toList.reverse = [] ∧ isAbsolute base then "/"
        else String.ofList (dropEnd base.toList.reverse).reverse := by
  have relative := isName.isAbsolute_eq_false
  have passed : ∀ c ∈ name.toList.reverse, (decide (c ≠ '/')) = true := by
    simpa using fun c member (slash : c = '/') => isName.noSlash (slash ▸ member)
  have rest : (frontOf base.toList).reverse.dropWhile (· ≠ '/') = (frontOf base.toList).reverse := by
    rcases head?_frontOf_reverse base.toList with nothing | slash
    · rw [nothing, List.dropWhile_nil]
    · obtain ⟨more, split⟩ := List.head?_eq_some_iff.mp slash
      rw [split, List.dropWhile_cons_of_neg (by simp)]
  simp only [parentPath, toList_joinPath relative, isAbsolute_joinPath relative,
    List.reverse_append, dropEnd_name isName, List.dropWhile_append_of_pos passed, rest,
    dropEnd_frontOf, Bool.and_eq_true, List.isEmpty_iff]

/-! ## Spellings of a folder -/

/-- A path that is no longer than another one and takes the same steps, but for those
to the same place. -/
structure Spells (base other : String) : Prop where
  absolute : isAbsolute other = isAbsolute base
  names : World.settled (pathNames other) = World.settled (pathNames base)
  within : other.toList <+: base.toList

/-- The path around a name below a folder is another spelling of that folder. -/
theorem spells_parentPath (isName : IsName name) :
    Spells base (parentPath (joinPath base name)) := by
  have settles := settled_namesIn_dropEnd base.toList.reverse
  rw [List.reverse_reverse] at settles
  have within : (dropEnd base.toList.reverse).reverse <+: base.toList := by
    simpa using List.reverse_prefix.mpr (dropEnd_suffix base.toList.reverse)
  rw [parentPath_joinPath isName]
  split
  case isTrue top =>
    -- Nothing is left of the base but the slash that it begins with.
    rw [top.1, List.reverse_nil] at settles
    obtain ⟨more, slash⟩ : ∃ more, base.toList = '/' :: more := by
      simpa [isAbsolute, List.head?_eq_some_iff] using top.2
    refine ⟨by rw [top.2]; decide, ?_, by rw [slash]; exact ⟨more, rfl⟩⟩
    rw [pathNames_eq, pathNames_eq, ← settles]
    rfl
  case isFalse notTop =>
    refine ⟨?_, by rw [pathNames_eq, String.toList_ofList, settles, pathNames_eq],
      by rwa [String.toList_ofList]⟩
    rw [isAbsolute, String.toList_ofList]
    cases left : (dropEnd base.toList.reverse).reverse with
    | nil =>
      have relative : ¬ isAbsolute base := fun absolute =>
        notTop ⟨List.reverse_eq_nil_iff.mp left, absolute⟩
      simpa using relative
    | cons first more =>
      rw [left] at within
      obtain ⟨tail, begins⟩ := within
      rw [isAbsolute, ← begins]
      rfl

/-- The path to a folder itself is as long as the path of the folder with one or two
octets more. -/
theorem utf8ByteSize_joinPath_here :
    base.utf8ByteSize + 1 ≤ (joinPath base ".").utf8ByteSize
      ∧ (joinPath base ".").utf8ByteSize ≤ base.utf8ByteSize + 2 := by
  have relative : isAbsolute "." = false := by decide
  have here : ".".utf8ByteSize = 1 := by decide
  have slash : "/".utf8ByteSize = 1 := by decide
  unfold joinPath
  split
  case isTrue empty =>
    obtain rfl : base = "" := by simpa [relative] using empty
    simp [here]
  case isFalse =>
    split
    · simp [String.utf8ByteSize_append, here]
    · simp [String.utf8ByteSize_append, here, slash]

theorem Spells.utf8ByteSize_le (spells : Spells base other) :
    (joinPath other ".").utf8ByteSize ≤ (joinPath base ".").utf8ByteSize := by
  obtain ⟨rest, split⟩ := spells.within
  have whole : base = other ++ String.ofList rest := by
    rw [← String.toList_inj, String.toList_append, String.toList_ofList, split]
  by_cases same : rest = []
  · simp [whole, same]
  · have longer : 0 < (String.ofList rest).utf8ByteSize := by
      rw [Nat.pos_iff_ne_zero, ne_eq, String.utf8ByteSize_eq_zero_iff, String.ofList_eq_empty_iff]
      exact same
    have sum := congrArg String.utf8ByteSize whole
    rw [String.utf8ByteSize_append] at sum
    have atLeast := (@utf8ByteSize_joinPath_here base).1
    have atMost := (@utf8ByteSize_joinPath_here other).2
    omega

namespace World

variable {root : Node} {links : Nat} {here place dots steps others rest : List String}
  {entries : List (String × Node)} {world : World}

/-- Steps to the same place in front of others lead nowhere else. -/
theorem walk_append_still (still : Still dots) :
    walk root true links here (dots ++ steps) = walk root true links here steps := by
  induction dots with
  | nil => rfl
  | cons step more inductionHypothesis =>
    obtain rfl : step = "." := still step List.mem_cons_self
    rw [List.cons_append, walk]
    exact inductionHypothesis fun step member => still step (List.mem_cons_of_mem _ member)

theorem exists_of_settled_eq_cons (settles : settled steps = name :: rest) :
    ∃ dots more, steps = dots ++ name :: more ∧ Still dots ∧ settled more = rest := by
  obtain ⟨dots, more, split, still, -, later⟩ := List.filter_eq_cons_iff.mp settles
  exact ⟨dots, more, split, by simpa [Still] using still, later⟩

/-- Steps to the same place do not change where a way leads, if it leads to a folder. -/
theorem walk_of_settled
    (led : walk root true links here steps = .ok place)
    (folder : root.at? place = some (.folder entries))
    (same : settled others = settled steps) :
    walk root true links here others = .ok place := by
  fun_induction walk root true links here steps generalizing others with
  | case1 links here =>
    have still : Still others := by
      simpa [settled, List.filter_eq_nil_iff, Still] using same
    rw [walk_of_still still]
    exact led
  | case2 links here more inductionHypothesis =>
    rw [settled_cons_here] at same
    exact inductionHypothesis led same
  | case3 links here more inductionHypothesis =>
    rw [settled_cons (by decide)] at same
    obtain ⟨dots, later, rfl, still, settles⟩ := exists_of_settled_eq_cons same
    rw [walk_append_still still, walk]
    exact inductionHypothesis led settles
  | case5 links here name more notHere notUp inner there inductionHypothesis =>
    rw [settled_cons notHere] at same
    obtain ⟨dots, later, rfl, still, settles⟩ := exists_of_settled_eq_cons same
    rw [walk_append_still still, walk_into notHere notUp there]
    exact inductionHypothesis led settles
  | case6 links here name more notHere notUp content mode there last =>
    obtain rfl := Except.ok.inj led
    rw [there] at folder
    cases folder
  | case8 links here name more notHere notUp device there last =>
    obtain rfl := Except.ok.inj led
    rw [there] at folder
    cases folder
  | case10 links here name more notHere notUp target there last => simp at last
  | case12 here name more notHere notUp target there notLast links inductionHypothesis =>
    rw [settled_cons notHere] at same
    obtain ⟨dots, later, rfl, still, settles⟩ := exists_of_settled_eq_cons same
    have alike : settled (pathSteps target ++ later) = settled (pathSteps target ++ more) := by
      rw [settled_append, settled_append, settles]
    rw [walk_append_still still, walk, there] <;> first | assumption | skip
    simpa using inductionHypothesis led alike
  | case4 | case7 | case9 | case11 => cases led

/-- A folder is opened by every spelling of its path. -/
theorem openFolder_of_spells
    (opened : world.openFolder base = .ok (location, entries))
    (spells : Spells base other) :
    world.openFolder other = .ok (location, entries) := by
  have relative : isAbsolute "." = false := by decide
  have given : "." ≠ "" := by decide
  rw [openFolder_eq_ok_iff] at opened ⊢
  obtain ⟨led, held⟩ := opened
  obtain ⟨noZero, -, short, led⟩ := resolve_eq_ok_iff.mp led
  refine ⟨resolve_eq_ok_iff.mpr ⟨?_, ?_, spells.utf8ByteSize_le.trans short, ?_⟩, held⟩
  · rw [mem_joinPath relative (by decide)] at noZero ⊢
    exact fun zero => noZero (zero.imp_left fun member => spells.within.subset member)
  · intro empty
    have longer := (@utf8ByteSize_joinPath_here other).1
    rw [empty] at longer
    simp at longer
  · rw [start, isAbsolute_joinPath relative, pathSteps_joinPath relative given] at led ⊢
    rw [spells.absolute]
    refine walk_of_settled led held ?_
    rw [settled_append, settled_append, spells.names]

/-- The path around a file opens the folder that the file was named in. -/
theorem openFolder_parentPath
    (opened : world.openFolder base = .ok (location, entries))
    (isName : IsName name) :
    world.openFolder (parentPath (joinPath base name)) = .ok (location, entries) :=
  openFolder_of_spells opened (spells_parentPath isName)

end World

end Findings
