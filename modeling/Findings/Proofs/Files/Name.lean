import Findings.Proofs.Files.Steps

/-!
Contract: the name of a file, its stem and its extension.

Owns:
- `Extends`, a name made of a stem, a dot and an extension, and the law that every
  name is split so, or has no dot behind its first character;
- the name that a path ends in, for paths below another one and for paths that
  lead to a file.

A path may end in a step to the same place, or go up.  Neither leads to a file, so
a file is called by the last step of its path and of its location alike.

Does not own: which extensions are looked for.
-/

namespace Findings

variable {chars stem extension : List Char} {name path top : String}
  {names location : List String}

/-! ## Stem and extension -/

/-- A name is a stem, which is not empty, a dot, and an extension without dots. -/
structure Extends (stem extension name : List Char) : Prop where
  given : stem ≠ []
  plain : '.' ∉ extension
  parts : name = stem ++ '.' :: extension

theorem takeWhile_reverse_append (plain : '.' ∉ extension) :
    ((stem ++ '.' :: extension).reverse.takeWhile (· ≠ '.')).reverse = extension := by
  have others : ∀ c ∈ extension.reverse, decide (c ≠ '.') = true := by
    simpa using fun c member (isDot : c = '.') => plain (isDot ▸ member)
  rw [List.reverse_append, List.reverse_cons, List.append_assoc, List.singleton_append,
    List.takeWhile_append_of_pos others, List.takeWhile_cons_of_neg (by simp), List.append_nil,
    List.reverse_reverse]

/-- A name is split before its last dot, unless nothing stands before it. -/
theorem splitName_append (plain : '.' ∉ extension) :
    splitName (stem ++ '.' :: extension)
      = if stem = [] then (stem ++ '.' :: extension, none) else (stem, some extension) := by
  have before : (stem ++ '.' :: extension).length - extension.length - 1 = stem.length := by
    rw [List.length_append, List.length_cons]
    omega
  have shorter : extension.length < (stem ++ '.' :: extension).length := by
    rw [List.length_append, List.length_cons]
    omega
  simp only [splitName, takeWhile_reverse_append plain, before, List.take_left, shorter, true_and]
  by_cases empty : stem = []
  · simp [empty]
  · simp [empty]

theorem splitName_of_not_mem (noDot : '.' ∉ chars) : splitName chars = (chars, none) := by
  have others : ∀ c ∈ chars.reverse, decide (c ≠ '.') = true := by
    simpa using fun c member (isDot : c = '.') => noDot (isDot ▸ member)
  simp only [splitName, List.takeWhile_eq_self_iff.mpr others, List.reverse_reverse,
    lt_self_iff_false, false_and, if_false]

/-- A name has a stem and an extension, or else no dot behind its first character. -/
theorem splitName_cases (name : List Char) :
    (∃ stem extension, Extends stem extension name ∧ splitName name = (stem, some extension))
      ∨ ('.' ∉ name.tail ∧ splitName name = (name, none)) := by
  by_cases dotted : '.' ∈ name
  · -- The last dot is the first one from behind.
    obtain ⟨back, front, split, noDot⟩ :=
      List.eq_append_cons_of_mem (List.mem_reverse.mpr dotted)
    have plain : '.' ∉ back.reverse := by simpa using noDot
    obtain rfl : name = front.reverse ++ '.' :: back.reverse := by
      rw [← List.reverse_reverse name, split]
      simp
    by_cases empty : front.reverse = []
    · refine .inr ⟨by simpa [empty] using noDot, ?_⟩
      rw [splitName_append plain, if_pos empty]
    · exact .inl ⟨_, _, ⟨empty, plain, rfl⟩, by rw [splitName_append plain, if_neg empty]⟩
  · exact .inr ⟨fun member => dotted (List.mem_of_mem_tail member), splitName_of_not_mem dotted⟩

/-- A dot at the front of a name does not split it. -/
theorem splitName_of_not_mem_tail {name : List Char} (noDot : '.' ∉ name.tail) :
    splitName name = (name, none) := by
  obtain ⟨stem, extension, parts, -⟩ | ⟨-, split⟩ := splitName_cases name
  · obtain ⟨first, more, rfl⟩ := List.exists_cons_of_ne_nil parts.given
    rw [parts.parts] at noDot
    simp at noDot
  · exact split

theorem Extends.splitName_eq {name : List Char} (parts : Extends stem extension name) :
    splitName name = (stem, some extension) := by
  rw [parts.parts, splitName_append parts.plain, if_neg parts.given]

/-! ## The name that a path ends in -/

theorem fileName?_of_getLast?
    (last : (pathNames path).getLast? = some name)
    (notHere : name ≠ ".")
    (notUp : name ≠ "..") :
    fileName? path = some name := by
  obtain ⟨front, names⟩ := List.getLast?_eq_some_iff.mp last
  have kept : ((pathNames path).filter (· ≠ ".")).getLast? = some name := by
    rw [names, List.filter_append, List.filter_cons_of_pos (by simpa using notHere)]
    simp
  unfold fileName?
  rw [kept]
  split <;> simp_all

/-- The extension of a path is that of its last name. -/
theorem extension?_eq :
    extension? path = (fileName? path).bind fun name =>
      (splitName name.toList).2.map String.ofList := by
  unfold extension?
  cases fileName? path with
  | none => rfl
  | some name => cases found : (splitName name.toList).2 <;> simp [found]

/-- A path below another one goes on with the names that it is given. -/
theorem pathNames_belowPath (areNames : ∀ name ∈ names, IsName name) :
    pathNames (belowPath top names) = pathNames top ++ names := by
  induction names generalizing top with
  | nil => exact (List.append_nil _).symm
  | cons name more inductionHypothesis =>
    have isName := areNames name List.mem_cons_self
    have below : belowPath top (name :: more) = belowPath (joinPath top name) more := rfl
    rw [below, inductionHypothesis fun name member => areNames name (List.mem_cons_of_mem _ member),
      pathNames_joinPath isName.isAbsolute_eq_false, pathNames_eq, pathNames_eq,
      namesIn_toList isName, List.append_assoc, List.singleton_append]

/-- A path below another one ends with the last name that it is given. -/
theorem fileName?_belowPath (given : names ≠ []) (areNames : ∀ name ∈ names, IsName name) :
    fileName? (belowPath top names) = names.getLast? := by
  have last := List.getLast?_eq_some_getLast given
  have isName := areNames _ (List.getLast_mem given)
  rw [last]
  apply fileName?_of_getLast? _ isName.notHere isName.notUp
  rw [pathNames_belowPath areNames, List.getLast?_append_of_ne_nil _ given, last]

namespace World

variable {root : Node} {links : Nat} {here steps : List String} {world : World}
  {content : List UInt8} {mode : Mode}

/-- Steps that lead to a file, and not through a link at their end, end in its name. -/
theorem getLast?_of_walk
    (led : walk root false links here steps = .ok location)
    (start : ∃ entries, root.at? here = some (.folder entries))
    (file : root.at? location = some (.file content mode)) :
    ∃ name, steps.getLast? = some name ∧ location.getLast? = some name
      ∧ name ≠ "." ∧ name ≠ ".." := by
  -- The steps go from one folder to another until they end.
  fun_induction walk root false links here steps with
  | case1 links here =>
    obtain ⟨entries, start⟩ := start
    obtain rfl := Except.ok.inj led
    rw [start] at file
    cases file
  | case2 links here more inductionHypothesis =>
    obtain ⟨name, last, same⟩ := inductionHypothesis led start
    exact ⟨name, by simp [List.getLast?_cons, last], same⟩
  | case3 links here more inductionHypothesis =>
    obtain ⟨entries, start⟩ := start
    obtain ⟨name, last, same⟩ := inductionHypothesis led
      (Node.folder_of_prefix start (List.dropLast_prefix here))
    exact ⟨name, by simp [List.getLast?_cons, last], same⟩
  | case5 links here name more notHere notUp entries there inductionHypothesis =>
    obtain ⟨other, last, same⟩ := inductionHypothesis led ⟨entries, there⟩
    exact ⟨other, by simp [List.getLast?_cons, last], same⟩
  | case6 links here name more notHere notUp inner executes there last =>
    obtain rfl : more = [] := by simpa using last
    obtain rfl := Except.ok.inj led
    exact ⟨name, rfl, by simp, notHere, notUp⟩
  | case8 links here name more notHere notUp device there last =>
    obtain rfl := Except.ok.inj led
    rw [there] at file
    cases file
  | case10 links here name more notHere notUp target there last =>
    obtain rfl := Except.ok.inj led
    rw [there] at file
    cases file
  | case12 here name more notHere notUp target there notLast links inductionHypothesis =>
    obtain ⟨entries, start⟩ := start
    have given : more ≠ [] := by simpa using notLast
    have top : ∃ entries, root.at? (if isAbsolute target then [] else here)
        = some (.folder entries) := by
      split
      · exact Node.folder_of_prefix start List.nil_prefix
      · exact ⟨entries, start⟩
    obtain ⟨other, last, same⟩ := inductionHypothesis led top
    rw [List.getLast?_append_of_ne_nil _ given] at last
    exact ⟨other, by simp [List.getLast?_cons, last], same⟩
  | case4 | case7 | case9 | case11 => cases led

/-- A path that leads to a file, and is no link, ends in the name of the file. -/
theorem fileName?_of_resolve
    (led : world.resolve false path = .ok location)
    (start : ∃ entries, world.root.at? (world.start path) = some (.folder entries))
    (file : world.root.at? location = some (.file content mode)) :
    ∃ name, fileName? path = some name ∧ location.getLast? = some name := by
  obtain ⟨-, -, -, led⟩ := resolve_eq_ok_iff.mp led
  obtain ⟨name, last, same, notHere, notUp⟩ := getLast?_of_walk led start file
  refine ⟨name, fileName?_of_getLast? ?_ notHere notUp, same⟩
  rw [pathSteps] at last
  split at last
  · have isDot : "." = name := by simpa using last
    exact absurd isDot.symm notHere
  · rwa [List.append_nil] at last

end World

end Findings
