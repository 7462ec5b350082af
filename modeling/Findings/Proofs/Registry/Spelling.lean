import Mathlib.Data.Finset.Card
import Findings.Proofs.Files.Tree
import Findings.Registry.Basic

/-!
Contract: the spellings of the paths that a scan tracks.

Owns:
- a path below another one as a front, which depends on the other path only, and
  names between slashes;
- what `normalizePath` makes of such a path, and that different names without
  backslashes stay different;
- the number of files of a registry, and which of them it finds.

Does not own: the files of a tree, and hosts.
-/

namespace Findings

variable {name : String} {names others : List String} {front path : List Char}
  {style : PathStyle} {top : String}

/-! ## Names between slashes -/

def slashed (names : List String) : List Char :=
  ['/'].intercalate (names.map String.toList)

@[simp]
theorem slashed_singleton : slashed [name] = name.toList := by
  simp [slashed, List.intercalate]

theorem slashed_cons (more : names ≠ []) :
    slashed (name :: names) = name.toList ++ '/' :: slashed names := by
  obtain ⟨second, rest, rfl⟩ := List.exists_cons_of_ne_nil more
  simp [slashed, List.intercalate]

/-- Names between slashes are taken apart again. -/
theorem splitOn_slashed (given : names ≠ []) (areNames : ∀ name ∈ names, IsName name) :
    (slashed names).splitOn '/' = names.map String.toList := by
  apply List.splitOn_intercalate
  · simpa using fun name member => (areNames name member).noSlash
  · simpa using given

/-- The names can be read off. -/
theorem slashed_injective
    (given : names ≠ [])
    (othersGiven : others ≠ [])
    (areNames : ∀ name ∈ names, IsName name)
    (othersAreNames : ∀ name ∈ others, IsName name)
    (same : slashed names = slashed others) :
    names = others := by
  have alike : names.map String.toList = others.map String.toList := by
    rw [← splitOn_slashed given areNames, ← splitOn_slashed othersGiven othersAreNames, same]
  exact List.map_injective_iff.mpr (fun _ _ => String.toList_injective) alike

/-- Names of files do not begin with a step to the same place. -/
theorem not_step_slashed (given : names ≠ []) (areNames : ∀ name ∈ names, IsName name) :
    ¬ ['.', '/'] <+: slashed names := by
  obtain ⟨first, more, rfl⟩ := List.exists_cons_of_ne_nil given
  have isName := areNames first List.mem_cons_self
  obtain ⟨rest, begins⟩ : ∃ rest, slashed (first :: more) = first.toList ++ rest := by
    by_cases last : more = []
    · exact ⟨[], by simp [last]⟩
    · exact ⟨_, slashed_cons last⟩
  rw [begins]
  -- The first name would be a dot alone, or have a slash after the dot.
  cases chars : first.toList with
  | nil => exact absurd (String.toList_eq_nil_iff.mp chars) isName.nonempty
  | cons dot later =>
    cases later with
    | nil =>
      intro step
      obtain rfl : '.' = dot := by simpa using (List.cons_prefix_cons.mp step).1
      exact isName.notHere (String.toList_injective chars)
    | cons slash later =>
      intro step
      obtain rfl : '/' = slash := by simpa using (List.cons_prefix_cons.mp step).2
      exact isName.noSlash (by simp [chars])

/-! ## Paths below a path -/

/-- What stands before the first name in a path below another one. -/
def frontOf (top : List Char) : List Char :=
  if top = [] ∨ top.getLast? = some '/' then top else top ++ ['/']

theorem frontOf_append_name (isName : IsName name) :
    frontOf (front ++ name.toList) = front ++ name.toList ++ ['/'] := by
  have nonempty : name.toList ≠ [] := by simpa using isName.nonempty
  have last : name.toList.getLast? ≠ some '/' :=
    fun isSlash => isName.noSlash (List.mem_of_getLast? isSlash)
  rw [frontOf, if_neg]
  rw [List.getLast?_append_of_ne_nil _ nonempty]
  simp [last, isName.nonempty]

theorem IsName.isAbsolute_eq_false (isName : IsName name) : isAbsolute name = false := by
  rw [isAbsolute, beq_eq_false_iff_ne]
  exact fun isSlash => isName.noSlash (List.mem_of_head? isSlash)

theorem toList_joinPath {below : String} (relative : isAbsolute below = false) :
    (joinPath top below).toList = frontOf top.toList ++ below.toList := by
  by_cases empty : top = ""
  · simp [joinPath, frontOf, relative, empty]
  · by_cases ends : top.toList.getLast? = some '/'
    · simp [joinPath, frontOf, relative, empty, ends]
    · simp [joinPath, frontOf, relative, empty, ends]

/-- A path below another one is the other one and the names, between slashes. -/
theorem toList_belowPath (given : names ≠ []) (areNames : ∀ name ∈ names, IsName name) :
    (belowPath top names).toList = frontOf top.toList ++ slashed names := by
  induction names generalizing top with
  | nil => contradiction
  | cons name more inductionHypothesis =>
    have isName := areNames name List.mem_cons_self
    cases more with
    | nil => simpa [belowPath] using toList_joinPath isName.isAbsolute_eq_false
    | cons second rest =>
      have below : belowPath top (name :: second :: rest)
          = belowPath (joinPath top name) (second :: rest) := rfl
      rw [below, inductionHypothesis (by simp) fun _ member => areNames _ (by simp [member]),
        toList_joinPath isName.isAbsolute_eq_false, frontOf_append_name isName,
        slashed_cons (List.cons_ne_nil second rest)]
      simp

/-- What stands before the names in the paths that a scan tracks. -/
def trackedFront (style : PathStyle) (top : String) : List Char :=
  match style with
  | .relative => []
  | .absolute => frontOf top.toList

/-- A tracked file is called by its names between slashes, perhaps behind the path of
the top. -/
theorem toList_trackedPath (given : names ≠ []) (areNames : ∀ name ∈ names, IsName name) :
    (trackedPath style top names).toList = trackedFront style top ++ slashed names := by
  cases style with
  | relative => simp [trackedPath, trackedFront, slashed]
  | absolute => exact toList_belowPath given areNames

/-! ## Normalized paths -/

/-- A front ends with a slash, if it is one at all. -/
theorem ends_trackedFront (style : PathStyle) (top : String) :
    trackedFront style top = [] ∨ (trackedFront style top).getLast? = some '/' := by
  cases style with
  | relative => exact .inl rfl
  | absolute =>
    rw [trackedFront, frontOf]
    split
    · assumption
    · simp

theorem dropCurrent_of_not_step (noStep : ¬ ['.', '/'] <+: path) : dropCurrent path = path := by
  rw [dropCurrent.eq_2]
  rintro rest rfl
  exact noStep ⟨rest, rfl⟩

/-- Steps to the same place are dropped from the front only, if none follows it. -/
theorem dropCurrent_append
    (ends : front = [] ∨ front.getLast? = some '/')
    (noStep : ¬ ['.', '/'] <+: path) :
    dropCurrent (front ++ path) = dropCurrent front ++ path := by
  fun_induction dropCurrent front with
  | case1 rest inductionHypothesis =>
    rw [List.cons_append, List.cons_append, dropCurrent]
    apply inductionHypothesis
    cases rest with
    | nil => exact .inl rfl
    | cons first more => simpa using ends
  | case2 front noStepFront =>
    apply dropCurrent_of_not_step
    rintro ⟨rest, begins⟩
    -- A front that ends with a slash and is more than one has all of the step.
    match front, ends with
    | [], _ => exact noStep ⟨rest, begins⟩
    | [slash], ends =>
      obtain rfl : slash = '/' := by simpa using ends
      simp at begins
    | first :: second :: more, _ =>
      obtain ⟨rfl, rfl, -⟩ : '.' = first ∧ '/' = second ∧ rest = more ++ path := by
        simpa using begins
      exact noStepFront more rfl

theorem map_unifySlash (plain : '\\' ∉ path) : path.map unifySlash = path := by
  have kept : ∀ c ∈ path, unifySlash c = id c := by
    intro c member
    have other : c ≠ '\\' := fun isBackslash => plain (isBackslash ▸ member)
    exact if_neg other
  rw [List.map_congr_left kept, List.map_id]

theorem mem_slashed {c : Char} (member : c ∈ slashed names) :
    c = '/' ∨ ∃ name ∈ names, c ∈ name.toList := by
  induction names with
  | nil => simp [slashed, List.intercalate] at member
  | cons name more inductionHypothesis =>
    by_cases last : more = []
    · subst last
      exact .inr ⟨name, by simp, by simpa using member⟩
    · rw [slashed_cons last, List.mem_append, List.mem_cons] at member
      rcases member with inName | isSlash | later
      · exact .inr ⟨name, by simp, inName⟩
      · exact .inl isSlash
      · exact (inductionHypothesis later).imp_right fun ⟨other, inside, held⟩ =>
          ⟨other, List.mem_cons_of_mem name inside, held⟩

/-- Names without backslashes are kept. -/
theorem toList_normalizePath_trackedPath
    (given : names ≠ [])
    (areNames : ∀ name ∈ names, IsName name)
    (plain : ∀ name ∈ names, '\\' ∉ name.toList) :
    (normalizePath (trackedPath style top names)).toList
      = dropCurrent ((trackedFront style top).map unifySlash) ++ slashed names := by
  have noBackslash : '\\' ∉ slashed names := by
    intro member
    rcases mem_slashed member with isSlash | ⟨name, inside, held⟩
    · contradiction
    · exact plain name inside held
  have ends : (trackedFront style top).map unifySlash = []
      ∨ ((trackedFront style top).map unifySlash).getLast? = some '/' := by
    rcases ends_trackedFront style top with isEmpty | isSlash
    · exact .inl (by rw [isEmpty, List.map_nil])
    · exact .inr (by rw [List.getLast?_map, isSlash]; rfl)
  rw [normalizePath, String.toList_ofList, toList_trackedPath given areNames, List.map_append,
    map_unifySlash noBackslash, dropCurrent_append ends (not_step_slashed given areNames)]

/-- Different names without backslashes have different normalized paths. -/
theorem normalizePath_trackedPath_injective
    (given : names ≠ [])
    (othersGiven : others ≠ [])
    (areNames : ∀ name ∈ names, IsName name)
    (othersAreNames : ∀ name ∈ others, IsName name)
    (plain : ∀ name ∈ names ++ others, '\\' ∉ name.toList)
    (same : normalizePath (trackedPath style top names)
      = normalizePath (trackedPath style top others)) :
    names = others := by
  have alike := congrArg String.toList same
  rw [toList_normalizePath_trackedPath given areNames fun _ member => plain _ (by simp [member]),
    toList_normalizePath_trackedPath othersGiven othersAreNames fun _ member =>
      plain _ (by simp [member]),
    List.append_cancel_left_eq] at alike
  exact slashed_injective given othersGiven areNames othersAreNames alike

/-! ## Registries -/

namespace Dictionary

variable {α : Type} {key : String} {dictionary : Dictionary α} {entries : List (String × α)}

theorem mem_keys_insertAll :
    key ∈ (dictionary.insertAll entries).entries.map Prod.fst
      ↔ key ∈ dictionary.entries.map Prod.fst ∨ key ∈ entries.map Prod.fst := by
  induction entries generalizing dictionary with
  | nil => simp [insertAll]
  | cons entry more inductionHypothesis =>
    have step : dictionary.insertAll (entry :: more)
        = (dictionary.insert entry.1 entry.2).insertAll more := rfl
    rw [step, inductionHypothesis, insert, mem_keys_put, List.map_cons, List.mem_cons]
    tauto

/-- A dictionary of a list has one entry for each of its keys. -/
theorem size_ofList : (ofList entries).size = (entries.map Prod.fst).toFinset.card := by
  have sameKeys : (entries.map Prod.fst).toFinset
      = ((ofList entries).entries.map Prod.fst).toFinset := by
    ext key
    simp only [List.mem_toFinset, ofList, mem_keys_insertAll]
    simp [empty]
  rw [sameKeys, List.toFinset_card_of_nodup (ofList entries).distinct, List.length_map, size]

end Dictionary

namespace FileRegistry

variable {η : Type} {files : List (TrackedFile η)} {spelling : String}

/-- A registry counts the normalized paths of its files. -/
theorem size_ofFiles :
    (ofFiles files).size = (files.map fun file => normalizePath file.path).toFinset.card := by
  rw [size, ofFiles, Dictionary.size_ofList, List.map_map]
  rfl

/-- Of the files whose paths a spelling could stand for a registry finds the
last. -/
theorem get?_ofFiles :
    (ofFiles files).get? spelling
      = (files.reverse.find? fun file => normalizePath file.path = normalizePath spelling).map
          TrackedFile.handle := by
  rw [get?, ofFiles, Dictionary.ofList, Dictionary.get?_insertAll, Dictionary.get?_empty,
    Option.or_none, ← List.map_reverse]
  induction files.reverse with
  | nil => rfl
  | cons file more inductionHypothesis =>
    by_cases same : normalizePath file.path = normalizePath spelling
    · simp [same]
    · have apart : (normalizePath spelling == normalizePath file.path) = false := by
        simpa using Ne.symm same
      rw [List.map_cons, List.lookup_cons, apart, inductionHypothesis,
        List.find?_cons_of_neg (by simpa using same)]

/-! Files whose handles are their own paths. -/

variable {paths : List String} {path : String}

/-- A registry of paths has as many files as there are different forms among them. -/
theorem size_ofFiles_self :
    (ofFiles (paths.map fun path => ⟨path, path⟩)).size
      = (paths.map normalizePath).toFinset.card := by
  rw [size_ofFiles, List.map_map]
  rfl

/-- Of paths with the same form a registry finds the last one. -/
theorem get?_ofFiles_self :
    (ofFiles (paths.map fun path => ⟨path, path⟩)).get? spelling
      = paths.reverse.find? fun path => normalizePath path = normalizePath spelling := by
  rw [get?_ofFiles, ← List.map_reverse, List.find?_map, Option.map_map]
  exact Option.map_id'

/-- If no two paths normalize alike, each is found in any of its spellings. -/
theorem lookup_ofFiles_self
    (apart : ∀ path ∈ paths, ∀ other ∈ paths,
      normalizePath path = normalizePath other → path = other)
    (listed : path ∈ paths)
    (spelled : normalizePath spelling = normalizePath path) :
    (ofFiles (paths.map fun path => ⟨path, path⟩)).lookup spelling
      = some (normalizePath path, path) := by
  rw [lookup, get?_ofFiles_self]
  cases found : paths.reverse.find? fun path => normalizePath path = normalizePath spelling with
  | none =>
    have missing := List.find?_eq_none.mp found path (List.mem_reverse.mpr listed)
    exact absurd spelled.symm (by simpa using missing)
  | some other =>
    have otherListed := List.mem_reverse.mp (List.mem_of_find?_eq_some found)
    have agrees : normalizePath other = normalizePath spelling := by
      simpa using List.find?_some found
    obtain rfl : other = path := apart other otherListed path listed (agrees.trans spelled)
    rw [Option.map_some, spelled]

end FileRegistry

end Findings
