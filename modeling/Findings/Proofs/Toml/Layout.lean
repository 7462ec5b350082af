import Findings.Proofs.Toml.Distinct

/-!
Contract: three ways to write a table that is held under a name.

Owns:
- `Writes`, lines that give a document some entries of its own and others in a table
  under a name, by a header, by a table in one value or by dotted keys;
- `Holds`, a table with these entries;
- the law that lines of each kind are refused exactly if a key comes twice, and
  otherwise make such a table.

Does not own: which text has which lines.
-/

namespace Findings.Toml

variable {name key : String} {value : Value} {pairs others own inside : List (String × Value)}
  {entries before after inner : Entries} {lines : List Line}

/-! ## Layouts -/

/-- The lines that give keys of the open table their values. -/
def pairLines (pairs : List (String × Value)) : List Line :=
  pairs.map fun pair => .pair [pair.1] pair.2

/-- Lines with keys of the document and dotted keys of a table in it, in any mixture. -/
inductive Mixed (name : String) :
    List (String × Value) → List (String × Value) → List Line → Prop
  | nil : Mixed name [] [] []
  | own {key : String} {value : Value} {own inside : List (String × Value)} {lines : List Line}
      (more : Mixed name own inside lines) :
      Mixed name ((key, value) :: own) inside (.pair [key] value :: lines)
  | inside {key : String} {value : Value} {own inside : List (String × Value)}
      {lines : List Line} (more : Mixed name own inside lines) :
      Mixed name own ((key, value) :: inside) (.pair [name, key] value :: lines)

/-- Lines that give a document some entries of its own and others in a table under a
name, both in any order. -/
inductive Writes (name : String) (own inside : List (String × Value)) : List Line → Prop
  | header {above below : List (String × Value)} (ownPerm : above.Perm own)
      (insidePerm : below.Perm inside) :
      Writes name own inside (pairLines above ++ .header [name] :: pairLines below)
  | inline {pairs members : List (String × Value)}
      (ownPerm : pairs.Perm ((name, .table members) :: own)) (insidePerm : members.Perm inside) :
      Writes name own inside (pairLines pairs)
  | dotted {plain members : List (String × Value)} {lines : List Line} (ownPerm : plain.Perm own)
      (insidePerm : members.Perm inside) (mixed : Mixed name plain members lines) :
      Writes name own inside lines

/-- A table with some entries of its own and others in a table under a name, which may
be missing if it would be empty. -/
inductive Holds (name : String) (own inside : List (String × Value)) :
    List (String × Value) → Prop
  | named {table members : List (String × Value)}
      (ownPerm : table.Perm ((name, .table members) :: own)) (insidePerm : members.Perm inside) :
      Holds name own inside table
  | missing {table : List (String × Value)} (ownPerm : table.Perm own) (empty : inside = []) :
      Holds name own inside table

/-! ## Entries with values -/

/-- Entries as they stand in a table that is still read. -/
def nodes (pairs : List (String × Value)) : Entries :=
  pairs.map fun pair => (pair.1, .value pair.2)

@[simp]
theorem keys_nodes : (nodes pairs).map Prod.fst = pairs.map Prod.fst := by
  rw [nodes, List.map_map]
  rfl

theorem entriesToValues_nodes : entriesToValues (nodes pairs) = pairs := by
  rw [entriesToValues_eq, nodes, List.map_map]
  exact List.map_id pairs

theorem append_nodes_cons {pair : String × Value} :
    entries ++ nodes (pair :: pairs) = (entries ++ nodes [pair]) ++ nodes pairs := by
  rw [List.append_assoc]
  rfl

theorem nodup_keys_front (distinct : ((entries ++ after).map Prod.fst).Nodup) :
    (entries.map Prod.fst).Nodup := by
  rw [List.map_append] at distinct
  exact List.Nodup.of_append_left distinct

/-- A table is given a key exactly if no key comes twice then. -/
theorem insert_single_eq_some_iff {result : Entries} (distinct : (entries.map Prod.fst).Nodup) :
    entries.insert [key] value = some result
      ↔ ((entries ++ nodes [(key, value)]).map Prod.fst).Nodup
        ∧ entries ++ nodes [(key, value)] = result := by
  have fresh : ((entries ++ nodes [(key, value)]).map Prod.fst).Nodup
      ↔ entries.lookup key = none := by
    rw [List.map_append, keys_nodes, List.nodup_append_comm, List.map_singleton,
      List.singleton_append, List.nodup_cons, Dictionary.lookup_eq_none_iff_not_mem]
    exact and_iff_left distinct
  rw [Entries.insert_single, Entries.alter_eq, fresh]
  cases found : entries.lookup key with
  | none =>
    simp [Dictionary.put_of_not_mem (Dictionary.lookup_eq_none_iff_not_mem.mp found), nodes]
  | some node => simp

/-- Pairs are added one after another exactly if their keys are new and differ; they
come last and in order. -/
theorem foldlM_insert_eq_some_iff {result : Entries} (distinct : (entries.map Prod.fst).Nodup) :
    pairs.foldlM (fun entries pair => entries.insert [pair.1] pair.2) entries = some result
      ↔ ((entries ++ nodes pairs).map Prod.fst).Nodup ∧ entries ++ nodes pairs = result := by
  induction pairs generalizing entries with
  | nil => simp [distinct, nodes]
  | cons pair pairs inductionHypothesis =>
    rw [List.foldlM_cons, Option.bind_eq_bind, Option.bind_eq_some_iff, append_nodes_cons]
    simp only [insert_single_eq_some_iff distinct]
    constructor
    · rintro ⟨_, ⟨longer, rfl⟩, others⟩
      exact (inductionHypothesis longer).mp others
    · rintro ⟨all, rfl⟩
      have longer := nodup_keys_front all
      exact ⟨_, ⟨longer, rfl⟩, (inductionHypothesis longer).mpr ⟨all, rfl⟩⟩

/-! ## Lines -/

/-- Lines do to a document what steps do to the state that it is made from. -/
theorem foldlM_add_lift {α σ : Type} {lift : σ → Draft} {write : α → Line}
    {step : σ → α → Option σ} {elements : List α}
    (commute : ∀ state element, (lift state).add (write element) = (step state element).map lift)
    {state : σ} :
    (elements.map write).foldlM Draft.add (lift state) = (elements.foldlM step state).map lift := by
  induction elements generalizing state with
  | nil => rfl
  | cons element elements inductionHypothesis =>
    rw [List.map_cons, List.foldlM_cons, List.foldlM_cons, commute]
    cases step state element with
    | none => rfl
    | some next => exact inductionHypothesis

/-- A document whose open table is the document itself. -/
def top (entries : Entries) : Draft :=
  ⟨entries, []⟩

/-- A document whose open table is one of its entries, the last of them. -/
def within (entries : Entries) (name : String) (inner : Entries) : Draft :=
  ⟨entries ++ [(name, .table .header inner)], [name]⟩

/-- A document with a table that dotted keys have made. -/
def amid (before : Entries) (name : String) (inner after : Entries) : Draft :=
  top (before ++ (name, .table .dotted inner) :: after)

def amidKeys (before : Entries) (name : String) (after : Entries) : List String :=
  before.map Prod.fst ++ name :: after.map Prod.fst

theorem keys_amid {node : Node} :
    (before ++ (name, node) :: after).map Prod.fst = amidKeys before name after :=
  List.map_append

theorem nodup_amidKeys_front {more : Entries}
    (distinct : (amidKeys before name (after ++ more)).Nodup) :
    (amidKeys before name after).Nodup := by
  rw [amidKeys, List.map_append, ← List.cons_append, ← List.append_assoc] at distinct
  exact List.Nodup.of_append_left distinct

theorem not_mem_of_nodup_amidKeys (distinct : (amidKeys before name after).Nodup) :
    name ∉ before.map Prod.fst := by
  rw [amidKeys, List.nodup_middle, List.nodup_cons] at distinct
  exact fun member => distinct.1 (List.mem_append_left _ member)

section Changes

variable {change : Option Node → Option Node} {node : Node}

theorem alter_of_not_mem (fresh : key ∉ entries.map Prod.fst) :
    entries.alter key change = (change none).map fun node => entries ++ [(key, node)] := by
  rw [Entries.alter_eq, Dictionary.lookup_eq_none_of_not_mem fresh]
  simp only [Dictionary.put_of_not_mem fresh]

theorem alter_append_cons (fresh : key ∉ before.map Prod.fst) :
    Entries.alter key change (before ++ (key, node) :: after)
      = (change (some node)).map fun node => before ++ (key, node) :: after := by
  rw [Entries.alter_eq, List.lookup_append, Dictionary.lookup_eq_none_of_not_mem fresh,
    Option.none_or, List.lookup_cons_self]
  simp only [Dictionary.put_append_cons fresh]

end Changes

theorem add_pair_top :
    (top entries).add (.pair [key] value) = (entries.insert [key] value).map top := by
  rw [Option.map_eq_bind]
  rfl

theorem add_pair_within (fresh : name ∉ entries.map Prod.fst) :
    (within entries name inner).add (.pair [key] value)
      = (inner.insert [key] value).map (within entries name) := by
  rw [within, Draft.add, Entries.alterAt, alter_append_cons fresh]
  dsimp only
  rw [Entries.alterAt_nil]
  cases inner.insert [key] value <;> rfl

/-- A header opens a table behind all entries of the document. -/
theorem add_header_top (fresh : name ∉ entries.map Prod.fst) :
    (top entries).add (.header [name]) = some (within entries name []) := by
  have opened : entries.openTable [name] = some (entries ++ [(name, .table .header [])]) :=
    alter_of_not_mem fresh
  rw [top, Draft.add, opened]
  rfl

/-- The first dotted key makes its table, behind all entries that are there. -/
theorem add_dotted_top (fresh : name ∉ before.map Prod.fst) :
    (top before).add (.pair [name, key] value)
      = some (amid before name (nodes [(key, value)]) []) := by
  have inserted : before.insert [name, key] value
      = some (before ++ [(name, .table .dotted (nodes [(key, value)]))]) :=
    alter_of_not_mem fresh
  rw [top, Draft.add, Entries.alterAt_nil, inserted]
  rfl

/-- A later dotted key finds the table where it is. -/
theorem add_dotted_amid (fresh : name ∉ before.map Prod.fst) :
    (amid before name inner after).add (.pair [name, key] value)
      = (inner.insert [key] value).map fun inner => amid before name inner after := by
  have inserted : Entries.insert [name, key] value (before ++ (name, .table .dotted inner) :: after)
      = (inner.insert [key] value).map fun inner =>
        before ++ (name, .table .dotted inner) :: after := by
    refine (alter_append_cons fresh).trans ?_
    dsimp only
    cases inner.insert [key] value <;> rfl
  rw [amid, top, Draft.add, Entries.alterAt_nil, inserted]
  cases inner.insert [key] value <;> rfl

/-- A key of the document comes behind the table that dotted keys have made. -/
theorem add_pair_amid {result : Draft} (distinct : (amidKeys before name after).Nodup) :
    (amid before name inner after).add (.pair [key] value) = some result
      ↔ (amidKeys before name (after ++ nodes [(key, value)])).Nodup
        ∧ amid before name inner (after ++ nodes [(key, value)]) = result := by
  rw [amid, add_pair_top, Option.map_eq_some_iff]
  simp only [insert_single_eq_some_iff (keys_amid.symm ▸ distinct), amid, List.append_assoc,
    List.cons_append, keys_amid]
  exact ⟨fun ⟨_, ⟨longer, made⟩, same⟩ => ⟨longer, made ▸ same⟩,
    fun ⟨longer, same⟩ => ⟨_, ⟨longer, rfl⟩, same⟩⟩

/-! ## Runs -/

/-- Many keys for the open table, which may be any part of the document. -/
theorem add_pairs {lift : Entries → Draft} {result : Draft}
    (commute : ∀ entries key value,
      (lift entries).add (.pair [key] value) = (entries.insert [key] value).map lift)
    (distinct : (entries.map Prod.fst).Nodup) :
    (pairLines pairs).foldlM Draft.add (lift entries) = some result
      ↔ ((entries ++ nodes pairs).map Prod.fst).Nodup
        ∧ lift (entries ++ nodes pairs) = result := by
  have each (entries : Entries) (pair : String × Value) :
      (lift entries).add (.pair [pair.1] pair.2) = (entries.insert [pair.1] pair.2).map lift :=
    commute entries pair.1 pair.2
  rw [pairLines, foldlM_add_lift each, Option.map_eq_some_iff]
  simp [foldlM_insert_eq_some_iff distinct]

/-- Behind the first dotted key any mixture of lines adds to the table or to the entries
behind it, without another change. -/
theorem add_mixed_amid {result : Draft} (mixed : Mixed name own inside lines)
    (outerDistinct : (amidKeys before name after).Nodup)
    (innerDistinct : (inner.map Prod.fst).Nodup) :
    lines.foldlM Draft.add (amid before name inner after) = some result
      ↔ (amidKeys before name (after ++ nodes own)).Nodup
        ∧ ((inner ++ nodes inside).map Prod.fst).Nodup
        ∧ amid before name (inner ++ nodes inside) (after ++ nodes own) = result := by
  induction mixed generalizing inner after with
  | nil =>
    have nothing : nodes [] = [] := rfl
    simp only [nothing, List.append_nil]
    exact ⟨fun made => ⟨outerDistinct, innerDistinct, Option.some.inj made⟩,
      fun ⟨_, _, made⟩ => congrArg some made⟩
  | @own key value own inside lines more inductionHypothesis =>
    rw [List.foldlM_cons, Option.bind_eq_bind, Option.bind_eq_some_iff, append_nodes_cons]
    simp only [add_pair_amid outerDistinct]
    constructor
    · rintro ⟨_, ⟨longer, rfl⟩, others⟩
      exact (inductionHypothesis longer innerDistinct).mp others
    · rintro ⟨all, innerAll, rfl⟩
      have longer := nodup_amidKeys_front all
      exact ⟨_, ⟨longer, rfl⟩,
        (inductionHypothesis longer innerDistinct).mpr ⟨all, innerAll, rfl⟩⟩
  | @inside key value own inside lines more inductionHypothesis =>
    rw [List.foldlM_cons, Option.bind_eq_bind, Option.bind_eq_some_iff, append_nodes_cons,
      add_dotted_amid (not_mem_of_nodup_amidKeys outerDistinct)]
    simp only [Option.map_eq_some_iff, insert_single_eq_some_iff innerDistinct]
    constructor
    · rintro ⟨_, ⟨_, ⟨longer, rfl⟩, rfl⟩, others⟩
      exact (inductionHypothesis outerDistinct longer).mp others
    · rintro ⟨all, innerAll, rfl⟩
      have longer := nodup_keys_front innerAll
      exact ⟨_, ⟨_, ⟨longer, rfl⟩, rfl⟩,
        (inductionHypothesis outerDistinct longer).mpr ⟨all, innerAll, rfl⟩⟩

theorem foldlM_pair_top {result : Draft} (distinct : (entries.map Prod.fst).Nodup) :
    (.pair [key] value :: lines).foldlM Draft.add (top entries) = some result
      ↔ ((entries ++ nodes [(key, value)]).map Prod.fst).Nodup
        ∧ lines.foldlM Draft.add (top (entries ++ nodes [(key, value)])) = some result := by
  rw [List.foldlM_cons, Option.bind_eq_bind, Option.bind_eq_some_iff, add_pair_top]
  simp only [Option.map_eq_some_iff, insert_single_eq_some_iff distinct]
  constructor
  · rintro ⟨_, ⟨_, ⟨longer, rfl⟩, rfl⟩, others⟩
    exact ⟨longer, others⟩
  · rintro ⟨longer, others⟩
    exact ⟨_, ⟨_, ⟨longer, rfl⟩, rfl⟩, others⟩

theorem nodup_amidKeys_iff (fresh : name ∉ before.map Prod.fst)
    (apart : name ∉ own.map Prod.fst) :
    (amidKeys before name (nodes own)).Nodup ↔ ((before ++ nodes own).map Prod.fst).Nodup := by
  rw [amidKeys, List.nodup_middle, List.nodup_cons, List.map_append, keys_nodes]
  exact and_iff_right (by simp [fresh, apart])

/-- A mixture of lines gives the entries of both kinds, whichever comes first. -/
theorem add_mixed_top (mixed : Mixed name own inside lines)
    (distinct : (before.map Prod.fst).Nodup) (fresh : name ∉ before.map Prod.fst)
    (apart : name ∉ own.map Prod.fst) :
    ∃ made : Entries,
      (inside = [] ∧ made = before ++ nodes own
        ∨ made.Perm ((name, .table .dotted (nodes inside)) :: (before ++ nodes own)))
      ∧ ∀ result, lines.foldlM Draft.add (top before) = some result
        ↔ ((before ++ nodes own).map Prod.fst).Nodup ∧ (inside.map Prod.fst).Nodup
          ∧ top made = result := by
  -- Until the first dotted key the document has entries of its own alone; this key makes
  -- the table, and what is left runs amid the entries before and behind it.
  induction mixed generalizing before with
  | nil =>
    have all : ((before ++ nodes []).map Prod.fst).Nodup :=
      (List.append_nil before).symm ▸ distinct
    refine ⟨before, .inl ⟨rfl, (List.append_nil before).symm⟩, fun result => ?_⟩
    exact ⟨fun made => ⟨all, List.nodup_nil, Option.some.inj made⟩,
      fun ⟨_, _, made⟩ => congrArg some made⟩
  | @own key value own inside lines more inductionHypothesis =>
    rw [List.map_cons, List.mem_cons, not_or] at apart
    simp only [foldlM_pair_top distinct]
    rw [append_nodes_cons]
    by_cases longer : ((before ++ nodes [(key, value)]).map Prod.fst).Nodup
    · have stillFresh : name ∉ (before ++ nodes [(key, value)]).map Prod.fst := by
        rw [List.map_append, keys_nodes, List.mem_append]
        simp [fresh, apart.1]
      obtain ⟨made, held, run⟩ := inductionHypothesis longer stillFresh apart.2
      exact ⟨made, held, fun result => (and_iff_right longer).trans (run result)⟩
    · -- No run goes on from here, so that any entries will do.
      refine ⟨_, .inr (.refl _), fun result => ?_⟩
      exact ⟨fun ⟨first, _⟩ => absurd first longer,
        fun ⟨all, _⟩ => absurd (nodup_keys_front all) longer⟩
  | @inside key value own inside lines more inductionHypothesis =>
    have outerDistinct : (amidKeys before name []).Nodup := by
      rw [amidKeys, List.map_nil, List.nodup_middle, List.append_nil]
      exact List.nodup_cons.mpr ⟨fresh, distinct⟩
    have innerDistinct : ((nodes [(key, value)]).map Prod.fst).Nodup := List.nodup_singleton _
    refine ⟨before ++ (name, .table .dotted (nodes ((key, value) :: inside))) :: nodes own,
      .inr List.perm_middle, fun result => ?_⟩
    rw [List.foldlM_cons, add_dotted_top fresh, Option.bind_eq_bind, Option.bind_some,
      add_mixed_amid more outerDistinct innerDistinct, List.nil_append,
      nodup_amidKeys_iff fresh apart, ← keys_nodes]
    rfl

/-- Keys above and below a header become entries of the document and of the table. -/
theorem add_header {above below : List (String × Value)} {result : Draft}
    (apart : name ∉ above.map Prod.fst) :
    (pairLines above ++ .header [name] :: pairLines below).foldlM Draft.add (top []) = some result
      ↔ (above.map Prod.fst).Nodup ∧ (below.map Prod.fst).Nodup
        ∧ within (nodes above) name (nodes below) = result := by
  have fresh : name ∉ (nodes above).map Prod.fst := by
    rwa [keys_nodes]
  have inTable (draft : Draft) :
      (pairLines below).foldlM Draft.add (within (nodes above) name []) = some draft
        ↔ ((nodes below).map Prod.fst).Nodup ∧ within (nodes above) name (nodes below) = draft :=
    add_pairs (fun _ _ _ => add_pair_within fresh) List.nodup_nil
  have onTop (draft : Draft) :
      (pairLines above).foldlM Draft.add (top []) = some draft
        ↔ ((nodes above).map Prod.fst).Nodup ∧ top (nodes above) = draft :=
    add_pairs (fun _ _ _ => add_pair_top) List.nodup_nil
  rw [keys_nodes] at inTable onTop
  rw [List.foldlM_append, Option.bind_eq_bind, Option.bind_eq_some_iff]
  constructor
  · rintro ⟨draft, made, others⟩
    obtain ⟨aboveDistinct, rfl⟩ := (onTop draft).mp made
    rw [List.foldlM_cons, add_header_top fresh] at others
    exact ⟨aboveDistinct, (inTable result).mp others⟩
  · rintro ⟨aboveDistinct, inside⟩
    refine ⟨_, (onTop _).mpr ⟨aboveDistinct, rfl⟩, ?_⟩
    rw [List.foldlM_cons, add_header_top fresh]
    exact (inTable result).mpr inside

/-! ## Tables -/

/-- The table of lines for which a run is known. -/
theorem tableOf_of_run {good : Prop} {made : Draft}
    (run : ∀ draft, lines.foldlM Draft.add (top []) = some draft ↔ good ∧ made = draft)
    {table : List (String × Value)} :
    tableOf lines = some table ↔ good ∧ entriesToValues made.entries = table := by
  rw [tableOf, Option.bind_eq_bind, Option.bind_eq_some_iff]
  constructor
  · rintro ⟨draft, added, same⟩
    obtain ⟨holds, rfl⟩ := (run draft).mp added
    exact ⟨holds, Option.some.inj same⟩
  · rintro ⟨holds, rfl⟩
    exact ⟨made, (run made).mpr ⟨holds, rfl⟩, rfl⟩

theorem entriesToValues_perm (perm : entries.Perm inner) :
    (entriesToValues entries).Perm (entriesToValues inner) := by
  rw [entriesToValues_eq, entriesToValues_eq]
  exact perm.map _

theorem entriesToValues_table {origin : Origin} :
    entriesToValues ((name, .table origin (nodes inside)) :: nodes own)
      = (name, .table inside) :: own := by
  rw [entriesToValues, Node.toValue, entriesToValues_nodes, entriesToValues_nodes]

/-- A document with one header is read exactly if the keys above differ and those below
do. -/
theorem tableOf_header {above below table : List (String × Value)}
    (apart : name ∉ above.map Prod.fst) :
    tableOf (pairLines above ++ .header [name] :: pairLines below) = some table
      ↔ (above.map Prod.fst).Nodup ∧ (below.map Prod.fst).Nodup
        ∧ above ++ [(name, .table below)] = table := by
  have written : entriesToValues (within (nodes above) name (nodes below)).entries
      = above ++ [(name, .table below)] := by
    rw [within, entriesToValues_eq, List.map_append, ← entriesToValues_eq, entriesToValues_nodes,
      List.map_singleton, Node.toValue, entriesToValues_nodes]
  have run (draft : Draft) := @add_header name above below draft apart
  simp only [← and_assoc] at run
  rw [tableOf_of_run run, written, and_assoc]

/-- A document without headers and dotted keys is the table of its lines. -/
theorem tableOf_pairLines {table : List (String × Value)} :
    tableOf (pairLines pairs) = some table ↔ (pairs.map Prod.fst).Nodup ∧ pairs = table := by
  have run (draft : Draft) :
      (pairLines pairs).foldlM Draft.add (top []) = some draft
        ↔ ((nodes pairs).map Prod.fst).Nodup ∧ top (nodes pairs) = draft :=
    add_pairs (fun _ _ _ => add_pair_top) List.nodup_nil
  rw [tableOf_of_run run, keys_nodes, top, entriesToValues_nodes]

/-- A document with dotted keys of one table is read exactly if its own keys differ and
those of the table do. -/
theorem tableOf_mixed (mixed : Mixed name own inside lines) (apart : name ∉ own.map Prod.fst) :
    ∃ table : List (String × Value),
      (inside = [] ∧ table = own ∨ table.Perm ((name, .table inside) :: own))
      ∧ ∀ result, tableOf lines = some result
        ↔ (own.map Prod.fst).Nodup ∧ (inside.map Prod.fst).Nodup ∧ table = result := by
  have empty : (([] : Entries).map Prod.fst).Nodup := List.nodup_nil
  obtain ⟨made, held, run⟩ := add_mixed_top mixed empty List.not_mem_nil apart
  simp only [List.nil_append, keys_nodes, ← and_assoc] at held run
  refine ⟨entriesToValues made, ?_, fun result => ?_⟩
  · rcases held with ⟨empty, rfl⟩ | perm
    · exact .inl ⟨empty, entriesToValues_nodes⟩
    · exact .inr (entriesToValues_table ▸ entriesToValues_perm perm)
  · rw [tableOf_of_run run, and_assoc]
    rfl

/-- Lines that write some entries and a table under a name are refused exactly if a key
comes twice, and otherwise make a table with these entries, however they are laid out. -/
theorem tableOf_of_writes (writes : Writes name own inside lines)
    (apart : name ∉ own.map Prod.fst) (good : ∀ line ∈ lines, line.Distinct) :
    ∃ table, Holds name own inside table
      ∧ ∀ result, tableOf lines = some result
        ↔ (own.map Prod.fst).Nodup ∧ (inside.map Prod.fst).Nodup ∧ table = result := by
  cases writes with
  | @header above below ownPerm insidePerm =>
    have aboveApart : name ∉ above.map Prod.fst :=
      fun member => apart ((ownPerm.map Prod.fst).mem_iff.mp member)
    refine ⟨above ++ [(name, .table below)], ?_, fun result => ?_⟩
    · have last := List.perm_append_singleton (name, Value.table below) above
      exact .named (last.trans (ownPerm.cons _)) insidePerm
    · rw [tableOf_header aboveApart, (ownPerm.map Prod.fst).nodup_iff,
        (insidePerm.map Prod.fst).nodup_iff]
  | @inline pairs members ownPerm insidePerm =>
    -- An inline table is one value, which is read only if its keys are distinct.
    have insideDistinct : (inside.map Prod.fst).Nodup := by
      have member : (name, .table members) ∈ pairs := ownPerm.mem_iff.mpr List.mem_cons_self
      cases good _ (List.mem_map_of_mem member) with
      | table keys all => exact (insidePerm.map Prod.fst).nodup_iff.mp keys
    refine ⟨pairs, .named ownPerm insidePerm, fun result => ?_⟩
    rw [tableOf_pairLines, (ownPerm.map Prod.fst).nodup_iff, List.map_cons, List.nodup_cons]
    simp [apart, insideDistinct]
  | @dotted plain members lines ownPerm insidePerm mixed =>
    have plainApart : name ∉ plain.map Prod.fst :=
      fun member => apart ((ownPerm.map Prod.fst).mem_iff.mp member)
    obtain ⟨table, held, run⟩ := tableOf_mixed mixed plainApart
    refine ⟨table, ?_, fun result => ?_⟩
    · rcases held with ⟨rfl, rfl⟩ | perm
      · exact .missing ownPerm (List.nil_perm.mp insidePerm)
      · exact .named (perm.trans (ownPerm.cons _)) insidePerm
    · rw [run, (ownPerm.map Prod.fst).nodup_iff, (insidePerm.map Prod.fst).nodup_iff]

end Findings.Toml
