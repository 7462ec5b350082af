import Findings.Proofs.Files.Name

/-!
Contract: the paths of what lies below a folder, made of the path of the folder and
names.

Owns:
- a path that leads to what is no link, whether it is followed or not;
- the path to a folder below another one, which opens it;
- the law that the path of whatever is no link leads there, unless it is too long for
  the system.

Does not own: which of these places are looked at.
-/

namespace Findings.World

variable {world : World} {root node inner : Node} {base name path top : String}
  {links : Nat} {here steps place location names : List String}
  {entries : List (String × Node)}

/-! ## Places that are no links -/

/-- A walk that does not end at a link comes to the same place when it follows the last
step. -/
theorem walk_followed
    (led : walk root false links here steps = .ok location)
    (noLink : ∀ target, root.at? location ≠ some (.link target)) :
    walk root true links here steps = .ok location := by
  -- Only a link at the end is left alone, and the way ends at none.
  fun_induction walk root false links here steps with
  | case1 links here => simpa only [walk] using led
  | case2 links here more inductionHypothesis | case3 links here more inductionHypothesis =>
    rw [walk]
    exact inductionHypothesis led
  | case5 links here name more notHere notUp entries there inductionHypothesis =>
    rw [walk_into notHere notUp there]
    exact inductionHypothesis led
  | case6 links here name more notHere notUp content mode there last =>
    rw [walk_onto notHere notUp there, if_pos last]
    exact led
  | case8 links here name more notHere notUp device there last =>
    rw [walk, there] <;> try assumption
    exact (if_pos last).trans led
  | case10 links here name more notHere notUp target there last =>
    obtain rfl := Except.ok.inj led
    exact absurd there (noLink target)
  | case12 here name more notHere notUp target there notLast links inductionHypothesis =>
    rw [walk, there] <;> try assumption
    have onwards : ¬ (more.isEmpty && !true) = true := by simp
    exact (if_neg onwards).trans (inductionHypothesis led)
  | case4 | case7 | case9 | case11 => cases led

/-- A path that is no link leads to the same if it is followed. -/
theorem leads_of_resolve
    (led : world.resolve false path = .ok place)
    (there : world.root.at? place = some node)
    (noLink : ∀ target, node ≠ .link target) :
    world.Leads path place node := by
  obtain ⟨noZero, given, short, led⟩ := resolve_eq_ok_iff.mp led
  refine ⟨resolve_eq_ok_iff.mpr ⟨noZero, given, short, walk_followed led fun target same => ?_⟩,
    there⟩
  exact noLink target (Option.some.inj (there.symm.trans same))

/-! ## Places below a folder -/

/-- The path to a folder in a folder opens it. -/
theorem Opens.joinPath
    (opens : world.Opens base place)
    (isName : IsName name)
    (there : world.root.at? (place ++ [name]) = some (.folder entries)) :
    world.Opens (joinPath base name) (place ++ [name]) := by
  have relative := isName.isAbsolute_eq_false
  have alone : pathNames name = [name] := pathNames_eq.trans (namesIn_toList isName)
  obtain ⟨noZero, ⟨dots, still, led⟩, outer, held⟩ := opens
  obtain ⟨left, goesOn⟩ := walk_append_of_folder still led held
  constructor
  case noZero =>
    rw [mem_joinPath relative (by decide), not_or]
    exact ⟨noZero, isName.noZero⟩
  case led =>
    refine ⟨[], by simp [Still], ?_⟩
    rw [start, isAbsolute_joinPath relative, pathNames_joinPath relative, List.append_nil, alone]
    exact (goesOn [name]).trans (by rw [walk_into isName.notHere isName.notUp there, walk])
  case folder => exact ⟨entries, there⟩

/-- The path to a folder below another one opens it. -/
theorem Opens.belowPath
    (opens : world.Opens top place)
    (areNames : ∀ name ∈ names, IsName name)
    (there : world.root.at? (place ++ names) = some (.folder entries)) :
    world.Opens (belowPath top names) (place ++ names) := by
  induction names generalizing top place with
  | nil => rwa [List.append_nil]
  | cons name more inductionHypothesis =>
    rw [List.append_cons] at there ⊢
    obtain ⟨before, outer⟩ := Node.folder_of_prefix there (List.prefix_append _ more)
    exact inductionHypothesis (opens.joinPath (areNames name List.mem_cons_self) outer)
      (fun name member => areNames name (List.mem_cons_of_mem _ member)) there

/-- The path to what is in a folder leads there, unless it is too long. -/
theorem Opens.leads_joinPath
    (opens : world.Opens base place)
    (isName : IsName name)
    (there : world.root.at? (place ++ [name]) = some node)
    (noLink : ∀ target, node ≠ .link target)
    (short : (Findings.joinPath base name).utf8ByteSize ≤ maxPathSize) :
    world.Leads (Findings.joinPath base name) (place ++ [name]) node := by
  obtain ⟨left, reaches⟩ := opens.resolve_joinPath isName.isAbsolute_eq_false isName.nonempty
  refine ⟨(reaches _).mpr ⟨isName.noZero, short, ?_⟩, there⟩
  rw [pathSteps_of_isName isName]
  cases node with
  | folder entries => rw [walk_into isName.notHere isName.notUp there, walk]
  | file content mode => exact (walk_onto isName.notHere isName.notUp there).trans (if_pos rfl)
  | link target => exact absurd rfl (noLink target)
  | device device =>
    rw [walk, there]
    · exact if_pos rfl
    · exact isName.notHere
    · exact isName.notUp

/-- The path of whatever is no link leads there, unless it is too long. -/
theorem Leads.belowPath
    (leads : world.Leads top place node)
    (named : node.WellNamed)
    (there : node.at? names = some inner)
    (noLink : ∀ target, inner ≠ .link target)
    (short : (Findings.belowPath top names).utf8ByteSize ≤ maxPathSize) :
    world.Leads (Findings.belowPath top names) (place ++ names) inner := by
  have held : world.root.at? (place ++ names) = some inner := by
    rw [Node.at?_append, leads.2]
    exact there
  cases names using List.reverseRecOn with
  | nil =>
    rw [List.append_nil] at held ⊢
    exact ⟨leads.1, held⟩
  | append_singleton front name =>
    have isName := named.isName_of_mem there (List.mem_append_right front List.mem_cons_self)
    have areNames : ∀ name ∈ front, IsName name :=
      fun name member => named.isName_of_mem there (List.mem_append_left _ member)
    have split : Findings.belowPath top (front ++ [name])
        = Findings.joinPath (Findings.belowPath top front) name := by
      simp [Findings.belowPath]
    rw [split] at short ⊢
    rw [← List.append_assoc] at held ⊢
    -- The names in front lead to a folder, which the path in front opens.
    obtain ⟨entries, folder⟩ : ∃ entries, node.at? front = some (.folder entries) := by
      rw [Node.at?_append] at there
      obtain ⟨middle, reached, below⟩ := Option.bind_eq_some_iff.mp there
      obtain ⟨entries, _, rfl, -, -⟩ := Node.folder_of_at?_cons below
      exact ⟨entries, reached⟩
    obtain ⟨outer, start⟩ := Node.folder_of_prefix folder List.nil_prefix
    obtain rfl : node = .folder outer := Option.some.inj start
    have opened : world.root.at? (place ++ front) = some (.folder entries) := by
      rw [Node.at?_append, leads.2]
      exact folder
    exact (leads.opens.belowPath areNames opened).leads_joinPath isName held noLink short

end Findings.World
