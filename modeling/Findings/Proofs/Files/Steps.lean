import Mathlib
import Findings.Proofs.Files.Folder
import Findings.Proofs.Registry.Spelling

/-!
Contract: paths seen from a folder, and the files that they lead to.

Owns:
- the names and steps of a path that is joined to another one, of names between
  slashes and of the path of a location;
- the way through a folder: it goes on from wherever the path of the folder
  leads, through links or not;
- the file that a path without a step up leads to, in a tree without links.

Does not own: what is read there.
-/

namespace Findings

variable {chars more : List Char} {base path name : String} {location : List String}

/-! ## Names -/

theorem splitSlashes_ne_nil (chars : List Char) : splitSlashes chars ≠ [] := by
  fun_induction splitSlashes chars <;> simp_all

theorem splitSlashes_append :
    splitSlashes (chars ++ '/' :: more) = splitSlashes chars ++ splitSlashes more := by
  induction chars with
  | nil => simp [splitSlashes]
  | cons c chars inductionHypothesis =>
      rw [List.cons_append, splitSlashes, splitSlashes, inductionHypothesis]
      by_cases slash : c = '/'
      · simp [slash]
      · obtain ⟨part, parts, split⟩ := List.exists_cons_of_ne_nil (splitSlashes_ne_nil chars)
        simp [slash, split]

theorem splitSlashes_of_not_mem (noSlash : '/' ∉ chars) : splitSlashes chars = [chars] := by
  induction chars with
  | nil => rfl
  | cons c chars inductionHypothesis =>
      rw [List.mem_cons, not_or] at noSlash
      rw [splitSlashes, inductionHypothesis noSlash.2, if_neg (Ne.symm noSlash.1)]

theorem noSlash_of_mem_splitSlashes {part : List Char} (member : part ∈ splitSlashes chars) :
    '/' ∉ part := by
  fun_induction splitSlashes chars generalizing part with
  | case1 => simp_all
  | case2 rest inductionHypothesis =>
      rcases List.mem_cons.mp member with rfl | later
      · simp
      · exact inductionHypothesis later
  | case3 c rest notSlash first more split inductionHypothesis =>
      rw [split] at inductionHypothesis
      rcases List.mem_cons.mp member with rfl | later
      · simpa [Ne.symm notSlash] using inductionHypothesis List.mem_cons_self
      · exact inductionHypothesis (List.mem_cons_of_mem _ later)
  | case4 c rest notSlash nothing => exact absurd nothing (splitSlashes_ne_nil rest)

/-- No character other than a slash is lost when a text is split. -/
theorem mem_splitSlashes {c : Char} (member : c ∈ chars) (notSlash : c ≠ '/') :
    ∃ part ∈ splitSlashes chars, c ∈ part := by
  fun_induction splitSlashes chars with
  | case1 => simp at member
  | case2 rest inductionHypothesis =>
      obtain ⟨part, held, inside⟩ := inductionHypothesis (by simpa [notSlash] using member)
      exact ⟨part, List.mem_cons_of_mem _ held, inside⟩
  | case3 first rest firstNotSlash part more split inductionHypothesis =>
      rw [split] at inductionHypothesis
      rcases List.mem_cons.mp member with rfl | later
      · exact ⟨c :: part, List.mem_cons_self, List.mem_cons_self⟩
      obtain ⟨other, held, inside⟩ := inductionHypothesis later
      rcases List.mem_cons.mp held with rfl | further
      · exact ⟨first :: other, List.mem_cons_self, List.mem_cons_of_mem _ inside⟩
      · exact ⟨other, List.mem_cons_of_mem _ further, inside⟩
  | case4 first rest firstNotSlash nothing => exact absurd nothing (splitSlashes_ne_nil rest)

def namesIn (chars : List Char) : List String :=
  ((splitSlashes chars).filter (!·.isEmpty)).map String.ofList

theorem pathNames_eq : pathNames path = namesIn path.toList :=
  rfl

theorem noSlash_of_mem_pathNames (member : name ∈ pathNames path) : '/' ∉ name.toList := by
  obtain ⟨part, held, rfl⟩ := List.mem_map.mp member
  rw [String.toList_ofList]
  exact noSlash_of_mem_splitSlashes (List.mem_filter.mp held).1

/-- Whatever a path holds besides slashes is in one of its names. -/
theorem mem_pathNames {c : Char} (member : c ∈ path.toList) (notSlash : c ≠ '/') :
    ∃ name ∈ pathNames path, c ∈ name.toList := by
  obtain ⟨part, held, inside⟩ := mem_splitSlashes member notSlash
  refine ⟨String.ofList part, List.mem_map_of_mem (List.mem_filter.mpr ⟨held, ?_⟩), ?_⟩
  · simpa using List.ne_nil_of_mem inside
  · simpa using inside

/-- The names on both sides of a slash are all the names. -/
theorem namesIn_append : namesIn (chars ++ '/' :: more) = namesIn chars ++ namesIn more := by
  simp [namesIn, splitSlashes_append]

theorem namesIn_toList (isName : IsName name) : namesIn name.toList = [name] := by
  have solid : name.toList ≠ [] := by simpa using isName.nonempty
  simp [namesIn, splitSlashes_of_not_mem isName.noSlash, solid]

theorem pathSteps_of_isName (isName : IsName name) : pathSteps name = [name] := by
  rw [pathSteps, pathNames_eq, namesIn_toList isName, if_neg, List.append_nil]
  exact fun ends => isName.noSlash (List.mem_of_getLast? ends)

/-- Names between slashes can be read off. -/
theorem namesIn_slashed (areNames : ∀ name ∈ location, IsName name) :
    namesIn (slashed location) = location := by
  induction location with
  | nil => rfl
  | cons name more inductionHypothesis =>
      have isName := areNames name List.mem_cons_self
      by_cases last : more = []
      · rw [last, slashed_singleton, namesIn_toList isName]
      · rw [slashed_cons last, namesIn_append, namesIn_toList isName,
          inductionHypothesis fun name member => areNames name (List.mem_cons_of_mem _ member)]
        rfl

theorem getLast?_slashed (areNames : ∀ name ∈ location, IsName name) :
    (slashed location).getLast? ≠ some '/' := by
  induction location with
  | nil => simp [slashed, List.intercalate]
  | cons name more inductionHypothesis =>
      have isName := areNames name List.mem_cons_self
      by_cases last : more = []
      · rw [last, slashed_singleton]
        exact fun ends => isName.noSlash (List.mem_of_getLast? ends)
      · have later : slashed more ≠ [] := by
          obtain ⟨second, rest, rfl⟩ := List.exists_cons_of_ne_nil last
          have isSecond := areNames second (by simp)
          intro nothing
          have names := namesIn_slashed fun name member =>
            areNames name (List.mem_cons_of_mem _ member)
          rw [nothing] at names
          contradiction
        rw [slashed_cons last, List.append_cons, List.getLast?_append_of_ne_nil _ later]
        exact inductionHypothesis fun name member => areNames name (List.mem_cons_of_mem _ member)

/-! ## Joined paths -/

theorem namesIn_frontOf : namesIn (frontOf chars ++ more) = namesIn chars ++ namesIn more := by
  by_cases empty : chars = []
  · simp [frontOf, empty, namesIn, splitSlashes]
  by_cases ends : chars.getLast? = some '/'
  · obtain ⟨front, rfl⟩ := List.getLast?_eq_some_iff.mp ends
    have nothing : namesIn [] = [] := rfl
    rw [frontOf, if_pos (.inr ends), List.append_assoc, List.singleton_append, namesIn_append,
      namesIn_append, nothing, List.append_nil]
  · rw [frontOf, if_neg (by simp [empty, ends]), List.append_assoc, List.singleton_append,
      namesIn_append]

/-- Joining two paths joins their names. -/
theorem pathNames_joinPath (relative : isAbsolute path = false) :
    pathNames (joinPath base path) = pathNames base ++ pathNames path := by
  rw [pathNames_eq, toList_joinPath relative, namesIn_frontOf, ← pathNames_eq,
    ← pathNames_eq]

/-- The steps of a path follow the names of the one that it is joined to. -/
theorem pathSteps_joinPath (relative : isAbsolute path = false) (given : path ≠ "") :
    pathSteps (joinPath base path) = pathNames base ++ pathSteps path := by
  have solid : path.toList ≠ [] := by simpa using given
  rw [pathSteps, pathNames_joinPath relative, toList_joinPath relative,
    List.getLast?_append_of_ne_nil _ solid, pathSteps, List.append_assoc]

/-- A joined path starts at the top exactly if its front does. -/
theorem isAbsolute_joinPath (relative : isAbsolute path = false) :
    isAbsolute (joinPath base path) = isAbsolute base := by
  rw [isAbsolute, toList_joinPath relative, isAbsolute]
  by_cases empty : base.toList = []
  · rw [empty]
    simpa [frontOf, isAbsolute] using relative
  · obtain ⟨first, rest, front⟩ := List.exists_cons_of_ne_nil empty
    rw [front]
    by_cases ends : (first :: rest).getLast? = some '/'
    · simp [frontOf, ends]
    · simp [frontOf, ends]

/-! ## The path of a location -/

theorem toList_locationPath (inside : location ≠ []) :
    (locationPath location).toList = '/' :: slashed location := by
  induction location with
  | nil => contradiction
  | cons name more inductionHypothesis =>
      by_cases last : more = []
      · simp [last, locationPath]
      · have rest := inductionHypothesis last
        rw [locationPath, if_neg (by simpa using last)] at rest
        rw [locationPath, if_neg (by simp), List.map_cons, String.join_cons, slashed_cons last,
          ← rest]
        simp

theorem isAbsolute_locationPath : isAbsolute (locationPath location) = true := by
  by_cases top : location = []
  · rw [top]
    decide
  · simp [isAbsolute, toList_locationPath top]

/-- The path of a location takes exactly the steps of the location. -/
theorem pathSteps_locationPath
    (inside : location ≠ [])
    (areNames : ∀ name ∈ location, IsName name) :
    pathSteps (locationPath location) = location := by
  have solid : slashed location ≠ [] := by
    intro nothing
    have names := namesIn_slashed areNames
    rw [nothing] at names
    exact inside names.symm
  have ends : ('/' :: slashed location).getLast? ≠ some '/' := by
    rw [← List.singleton_append, List.getLast?_append_of_ne_nil _ solid]
    exact getLast?_slashed areNames
  have names : namesIn ('/' :: slashed location) = location := by
    rw [← List.nil_append ('/' :: slashed location), namesIn_append, namesIn_slashed areNames]
    rfl
  rw [pathSteps, pathNames_eq, toList_locationPath inside, if_neg ends, List.append_nil, names]

/-! ## The way through a folder -/

namespace World

variable {root : Node} {links : Nat} {here place before dots steps : List String}
  {entries : List (String × Node)}

section Steps

variable (notHere : name ≠ ".") (notUp : name ≠ "..")
include notHere notUp

theorem walk_into (there : root.at? (here ++ [name]) = some (.folder entries)) :
    walk root true links here (name :: steps) = walk root true links (here ++ [name]) steps := by
  rw [walk, there]
  · exact notHere
  · exact notUp

/-- A step to nothing is a fault, and one to a name that no file can have another one.
-/
theorem walk_nowhere (there : root.at? (here ++ [name]) = none) :
    walk root true links here (name :: steps)
      = .error (if maxNameSize < name.utf8ByteSize then .nameTooLong else .missing) := by
  rw [walk, there]
  · exact notHere
  · exact notUp

/-- Nothing but the end of a way is a file. -/
theorem walk_onto {content : List UInt8} {mode : Mode}
    (there : root.at? (here ++ [name]) = some (.file content mode)) :
    walk root true links here (name :: steps)
      = if steps.isEmpty then .ok (here ++ [name]) else .error .notFolder := by
  rw [walk, there]
  · exact notHere
  · exact notUp

/-- A way to a folder does not end before, at what is none. -/
theorem not_walk_onto {node : Node}
    (there : root.at? (here ++ [name]) = some node)
    (solid : (∃ content mode, node = .file content mode)
      ∨ ∃ device, node = .device device)
    (led : walk root true links here (name :: steps) = .ok place)
    (folder : root.at? place = some (.folder entries)) :
    False := by
  rcases solid with ⟨content, mode, rfl⟩ | ⟨device, rfl⟩
  all_goals
    rw [walk, there] at led <;> try assumption
    simp only at led
    split at led
    · obtain rfl := Except.ok.inj led
      rw [there] at folder
      cases folder
    · contradiction

end Steps

/-- Steps to the same place. -/
def Still (steps : List String) : Prop :=
  ∀ step ∈ steps, step = "."

theorem walk_of_still (still : Still dots) : walk root true links here dots = .ok here := by
  induction dots with
  | nil => rw [walk]
  | cons step more inductionHypothesis =>
      obtain rfl : step = "." := still step List.mem_cons_self
      rw [walk]
      exact inductionHypothesis fun step member => still step (List.mem_cons_of_mem _ member)

/-- Where steps lead to a folder, further steps go on from it, with the links that are
left. -/
theorem walk_append_of_folder (still : Still dots)
    (led : walk root true links here (before ++ dots) = .ok place)
    (folder : root.at? place = some (.folder entries)) :
    ∃ left, ∀ steps,
      walk root true links here (before ++ steps) = walk root true left place steps := by
  -- The cases are those of the way to the folder; none of them looks at what follows.
  fun_induction walk root true links here before with
  | case1 links here =>
      obtain rfl : here = place := by
        rw [List.nil_append, walk_of_still still] at led
        exact Except.ok.inj led
      exact ⟨links, fun steps => rfl⟩
  | case2 links here more inductionHypothesis | case3 links here more inductionHypothesis =>
      rw [List.cons_append, walk] at led
      obtain ⟨left, goesOn⟩ := inductionHypothesis led
      exact ⟨left, fun steps => by rw [List.cons_append, walk, goesOn]⟩
  | case4 links here name more notHere notUp missing =>
      rw [List.cons_append, walk_nowhere notHere notUp missing] at led
      contradiction
  | case5 links here name more notHere notUp inside there inductionHypothesis =>
      rw [List.cons_append, walk_into notHere notUp there] at led
      obtain ⟨left, goesOn⟩ := inductionHypothesis led
      exact ⟨left, fun steps => by rw [List.cons_append, walk_into notHere notUp there, goesOn]⟩
  | case6 links here name more notHere notUp content mode there
  | case7 links here name more notHere notUp content mode there =>
      exact (not_walk_onto notHere notUp there (.inl ⟨content, mode, rfl⟩) led folder).elim
  | case8 links here name more notHere notUp device there
  | case9 links here name more notHere notUp device there =>
      exact (not_walk_onto notHere notUp there (.inr ⟨device, rfl⟩) led folder).elim
  | case10 links here name more notHere notUp target there last => simp at last
  | case11 here name more notHere notUp target there =>
      rw [List.cons_append, walk, there] at led <;> first | assumption | skip
      simp at led
  | case12 here name more notHere notUp target there notLast links inductionHypothesis =>
      have onwards (steps : List String) :
          walk root true (links + 1) here (name :: more ++ steps)
            = walk root true links (if isAbsolute target then [] else here)
              (pathSteps target ++ more ++ steps) := by
        rw [List.cons_append, walk, there, List.append_assoc] <;> first | assumption | skip
        simp
      rw [onwards] at led
      obtain ⟨left, goesOn⟩ := inductionHypothesis led
      exact ⟨left, fun steps => (onwards steps).trans (goesOn steps)⟩

/-! ## Files below a folder -/

/-- The names that steps go through, without those to the same place. -/
def settled (steps : List String) : List String :=
  steps.filter (· ≠ ".")

variable {tree : Node} {content : List UInt8} {mode : Mode}

/-- Steps are settled one after another. -/
theorem settled_append : settled (before ++ steps) = settled before ++ settled steps :=
  List.filter_append before steps

theorem settled_cons_here : settled ("." :: steps) = settled steps := by
  simp [settled]

theorem settled_cons (notHere : name ≠ ".") : settled (name :: steps) = name :: settled steps := by
  simp [settled, notHere]

theorem settled_of_not_mem (notHere : "." ∉ steps) : settled steps = steps := by
  rw [settled, List.filter_eq_self]
  intro step member
  simpa using fun same : step = "." => notHere (same ▸ member)

/-- Where no names are left, there are no steps, unless they end with one to the same
place. -/
theorem eq_nil_of_settled (nothing : settled steps = []) (ends : steps.getLast? ≠ some ".") :
    steps = [] := by
  by_contra given
  have last := List.getLast?_eq_some_getLast given
  have still : ∀ step ∈ steps, step = "." := by
    simpa [settled, List.filter_eq_nil_iff] using nothing
  rw [still _ (List.getLast_mem given)] at last
  exact ends last

/-- Steps through folders lead to the file at their names, unless they ask for a folder
at the end. -/
theorem walk_to_file (there : root.at? place = some tree)
    (file : tree.at? (settled steps) = some (.file content mode))
    (noUp : ".." ∉ steps) (ends : steps.getLast? ≠ some ".") :
    walk root true links place steps = .ok (place ++ settled steps) := by
  induction steps generalizing place tree with
  | nil => simp [walk, settled]
  | cons step more inductionHypothesis =>
      rw [List.mem_cons, not_or] at noUp
      have later : more.getLast? ≠ some "." := by
        cases more with
        | nil => simp
        | cons second rest => simpa using ends
      by_cases same : step = "."
      · subst same
        rw [settled_cons_here] at file ⊢
        rw [walk]
        exact inductionHypothesis there file noUp.2 later
      · rw [settled_cons same] at file ⊢
        obtain ⟨entries, next, rfl, held, below⟩ := Node.folder_of_at?_cons file
        have inside : root.at? (place ++ [step]) = some next := by
          rw [Node.at?_append, there, Option.bind_some]
          simp [Node.at?, Node.entries, held]
        cases next with
        | folder inner =>
            rw [walk_into same (Ne.symm noUp.1) inside,
              inductionHypothesis inside below noUp.2 later, List.append_assoc]
            rfl
        | file inner mode =>
            have nothing : settled more = [] := by
              cases rest : settled more with
              | nil => rfl
              | cons second further =>
                  rw [rest, Node.at?_file_cons] at below
                  contradiction
            rw [walk_onto same (Ne.symm noUp.1) inside, nothing, eq_nil_of_settled nothing later]
            rfl
        | link target | device device =>
            cases rest : settled more with
            | nil => simp [rest, Node.at?] at below
            | cons second further => simp [rest, Node.at?, Node.entries] at below

/-- In a tree without links, steps lead to no other file than the one at their names. -/
theorem file_of_walk {location : List String} (there : root.at? place = some (.folder entries))
    (noLinks : ∀ below target, (Node.folder entries).at? below ≠ some (.link target))
    (noUp : ".." ∉ steps)
    (led : walk root true links place steps = .ok location)
    (file : root.at? location = some (.file content mode)) :
    location = place ++ settled steps ∧ steps.getLast? ≠ some "." ∧ steps ≠ [] := by
  induction steps generalizing place entries with
  | nil =>
      rw [walk] at led
      obtain rfl := Except.ok.inj led
      rw [there] at file
      cases file
  | cons step more inductionHypothesis =>
      rw [List.mem_cons, not_or] at noUp
      by_cases same : step = "."
      · subst same
        rw [walk] at led
        obtain ⟨reached, ends, given⟩ := inductionHypothesis there noLinks noUp.2 led
        refine ⟨by rw [settled_cons_here, reached], ?_, by simp⟩
        obtain ⟨second, rest, rfl⟩ := List.exists_cons_of_ne_nil given
        simpa using ends
      · have inside : root.at? (place ++ [step]) = entries.lookup step := by
          rw [Node.at?_append, there, Option.bind_some]
          simp only [Node.at?, Node.entries]
          cases entries.lookup step <;> rfl
        have below (more : List String) {next : Node} (held : entries.lookup step = some next) :
            (Node.folder entries).at? (step :: more) = next.at? more := by
          simp [Node.at?, Node.entries, held]
        rw [settled_cons same]
        cases held : entries.lookup step with
        | none =>
            rw [held] at inside
            rw [walk_nowhere same (Ne.symm noUp.1) inside] at led
            contradiction
        | some next =>
            rw [held] at inside
            cases next with
            | folder inner =>
                rw [walk_into same (Ne.symm noUp.1) inside] at led
                have noLinksInside : ∀ further target,
                    (Node.folder inner).at? further ≠ some (.link target) := by
                  intro further target
                  rw [← below further held]
                  exact noLinks (step :: further) target
                obtain ⟨reached, ends, given⟩ := inductionHypothesis inside noLinksInside noUp.2 led
                refine ⟨by rw [reached, List.append_assoc]; rfl, ?_, by simp⟩
                obtain ⟨second, rest, rfl⟩ := List.exists_cons_of_ne_nil given
                simpa using ends
            | file inner mode =>
                rw [walk_onto same (Ne.symm noUp.1) inside] at led
                split at led
                · rename_i last
                  obtain rfl : more = [] := by simpa using last
                  obtain rfl := Except.ok.inj led
                  exact ⟨rfl, by simpa using same, by simp⟩
                · contradiction
            | device device =>
                rw [walk, inside] at led <;> first | assumption | exact Ne.symm noUp.1 | skip
                simp only at led
                split at led
                · obtain rfl := Except.ok.inj led
                  rw [inside] at file
                  cases file
                · contradiction
            | link target => exact (noLinks [step] target ((below [] held).trans rfl)).elim

/-! ## Paths below a folder -/

variable {world : World} {folder : String}

/-- The location that the steps of a path start from. -/
def start (world : World) (path : String) : List String :=
  if isAbsolute path then [] else world.current

/-- A path has a location exactly if it can be passed to the system and its steps lead
somewhere. -/
theorem resolve_eq_ok_iff {follow : Bool} :
    world.resolve follow path = .ok location
      ↔ '\x00' ∉ path.toList ∧ path ≠ "" ∧ path.utf8ByteSize ≤ maxPathSize
        ∧ walk world.root follow maxLinks (world.start path) (pathSteps path) = .ok location := by
  unfold resolve start
  by_cases zero : '\x00' ∈ path.toList
  · simp [zero]
  by_cases empty : path = ""
  · simp [empty]
  by_cases long : maxPathSize < path.utf8ByteSize
  · simp [zero, empty, long, Nat.not_le.mpr long]
  · simp [zero, empty, long, Nat.not_lt.mp long]

/-- The names of a path lead to a folder, where steps to the same place do not
count. -/
structure Opens (world : World) (base : String) (place : List String) : Prop where
  noZero : '\x00' ∉ base.toList
  led : ∃ dots, Still dots
    ∧ walk world.root true maxLinks (world.start base) (pathNames base ++ dots) = .ok place
  folder : ∃ entries, world.root.at? place = some (.folder entries)

/-- What leads to a folder opens it. -/
theorem Leads.opens (leads : world.Leads base place (.folder entries)) :
    world.Opens base place := by
  obtain ⟨noZero, -, -, led⟩ := resolve_eq_ok_iff.mp leads.1
  refine ⟨noZero, ⟨_, ?_, led⟩, entries, leads.2⟩
  intro step member
  split at member
  · simpa using member
  · simp at member

theorem mem_joinPath {c : Char} (relative : isAbsolute path = false) (notSlash : c ≠ '/') :
    c ∈ (joinPath base path).toList ↔ c ∈ base.toList ∨ c ∈ path.toList := by
  rw [toList_joinPath relative, List.mem_append, frontOf]
  split
  · rfl
  · simp [notSlash]

theorem absolute_eq_self (absolute : isAbsolute path = true) : world.absolute path = path := by
  simp [World.absolute, joinPath, absolute]

theorem isAbsolute_absolute : isAbsolute (world.absolute path) = true := by
  by_cases absolute : isAbsolute path = true
  · rwa [absolute_eq_self absolute]
  · rw [World.absolute, isAbsolute_joinPath (Bool.eq_false_iff.mpr absolute),
      isAbsolute_locationPath]

theorem opens_of_openFolder (opened : world.openFolder folder = .ok (place, entries)) :
    world.Opens folder place := by
  have relative : isAbsolute "." = false := by decide
  obtain ⟨led, there⟩ := openFolder_eq_ok_iff.mp opened
  obtain ⟨noZero, -, -, led⟩ := resolve_eq_ok_iff.mp led
  rw [mem_joinPath relative (by decide), not_or] at noZero
  rw [start, isAbsolute_joinPath relative, pathSteps_joinPath relative (by decide)] at led
  refine ⟨noZero.1, ⟨pathSteps ".", ?_, led⟩, entries, there⟩
  have steps : pathSteps "." = ["."] := by decide
  simp [steps, Still]

/-- A path below a folder goes on from where the folder is. -/
theorem Opens.resolve_joinPath (opens : world.Opens base place)
    (relative : isAbsolute path = false) (given : path ≠ "") :
    ∃ left, ∀ location, world.resolve true (joinPath base path) = .ok location
      ↔ '\x00' ∉ path.toList ∧ (joinPath base path).utf8ByteSize ≤ maxPathSize
        ∧ walk world.root true left place (pathSteps path) = .ok location := by
  obtain ⟨noZero, ⟨dots, still, led⟩, entries, there⟩ := opens
  obtain ⟨left, goesOn⟩ := walk_append_of_folder still led there
  refine ⟨left, fun location => ?_⟩
  have solid : joinPath base path ≠ "" := by
    intro empty
    have nothing : (joinPath base path).toList = _ := toList_joinPath relative
    rw [empty] at nothing
    exact given (by simpa using (List.append_eq_nil_iff.mp nothing.symm).2)
  rw [resolve_eq_ok_iff, mem_joinPath relative (by decide), start, isAbsolute_joinPath relative,
    pathSteps_joinPath relative given]
  simp only [noZero, false_or, solid, ne_eq, not_false_eq_true, true_and]
  rw [← goesOn]
  rfl

/-- The empty path below a folder is the folder. -/
theorem Opens.resolve_joinPath_empty (opens : world.Opens base place)
    (led : world.resolve true (joinPath base "") = .ok location) :
    location = place := by
  have relative : isAbsolute "" = false := by decide
  obtain ⟨-, ⟨dots, still, toFolder⟩, entries, there⟩ := opens
  obtain ⟨left, goesOn⟩ := walk_append_of_folder still toFolder there
  obtain ⟨-, -, -, led⟩ := resolve_eq_ok_iff.mp led
  rw [start, isAbsolute_joinPath relative, pathSteps, pathNames_joinPath relative,
    show pathNames "" = [] by decide, List.append_nil, ← start, goesOn] at led
  have stays (steps : List String) (still : Still steps) :
      walk world.root true left place steps = .ok place := walk_of_still still
  rw [stays] at led
  · exact (Except.ok.inj led).symm
  · split <;> simp [Still]

end World

end Findings
