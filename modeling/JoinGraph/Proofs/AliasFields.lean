import JoinGraph.Proofs.Outcome

/-!
# Fields under aliases

A field is collected under the name of its table, and under the alias that its column is written
with.  So the fields under an alias are among those under its table, and uniting them in the end
changes nothing.

The catalog of a statement has all tables before any column is added.  A statement can also be
read join by join: a join registers the tables that nothing else explains, and then adds its two
columns to the `Inventory`. A column under a name that is not registered would be lost, but none
is, so both ways collect the same fields.

## Main results

* `FieldSets.merge_eq_self` — when the union changes nothing.
* `Inventory.Lists.register`, `Inventory.Lists.see` — what every step of reading keeps.
* `Inventory.lists_ofStatement`, `lists_collected` — both ways collect the columns of the statement.
* `Inventory.Lists.fieldsOf_subset` — the fields under an alias are among those under its table.
* `graph_unmerged` — the graph is the same without the union.
-/

namespace JoinGraph

/-! ## Fields under a name -/

namespace FieldSets

/-- An entry without fields is not to be told from none. -/
theorem fieldsOf_concat_empty (sets : FieldSets) (new name : String) :
    fieldsOf (sets ++ [(new, [])]) name = sets.fieldsOf name := by
  unfold fieldsOf
  rw [List.find?_append]
  cases sets.find? (·.1 == name) with
  | some entry => rfl
  | none =>
      rw [Option.none_or, List.find?_singleton]
      cases new == name <;> rfl

/-- If no name has two entries, each entry is found under its name. -/
theorem fieldsOf_of_mem {sets : FieldSets} (hnames : (sets.map (·.1)).Nodup)
    {entry : String × List String} (h : entry ∈ sets) : sets.fieldsOf entry.1 = entry.2 := by
  rw [fieldsOf, find?_key_of_nodup hnames h]

theorem mem_fieldsOf_iff {sets : FieldSets} (hnames : (sets.map (·.1)).Nodup)
    {name field : String} :
    field ∈ sets.fieldsOf name ↔ sets.Holds name field := by
  refine ⟨holds_of_mem_fieldsOf, ?_⟩
  rintro ⟨entry, hentry, rfl, hfield⟩
  rwa [fieldsOf_of_mem hnames hentry]

/-- Fields are added under a name that is there, and under no other. -/
theorem fieldsOf_extend {sets : FieldSets} {name : String} (hname : name ∈ sets.map (·.1))
    (fields : List String) (other : String) : (sets.extend name fields).fieldsOf other =
      if name = other then fields.foldl insertField (sets.fieldsOf other)
      else sets.fieldsOf other := by
  have hkeys : ((·.1 == other) ∘ fun entry : String × List String =>
      if entry.1 == name then (entry.1, fields.foldl insertField entry.2) else entry) =
        (·.1 == other) := by
    funext entry
    rw [Function.comp_apply]
    split <;> rfl
  rw [extend, fieldsOf, List.find?_map, hkeys, fieldsOf]
  cases hfind : sets.find? (·.1 == other) with
  | some entry =>
      obtain rfl : entry.1 = other := (mem_of_find?_key hfind).2
      by_cases heq : entry.1 = name
      · simp [heq]
      · simp [heq, Ne.symm heq]
  | none =>
      rw [if_neg]
      · rfl
      · rintro rfl
        obtain ⟨entry, hentry, hkey⟩ := List.mem_map.1 hname
        exact List.find?_eq_none.1 hfind entry hentry (beq_iff_eq.2 hkey)

/-- A column is added under both names of its table, if they are there. -/
theorem fieldsOf_add {sets : FieldSets} {own : OwnedColumn} (htable : own.table ∈ sets.map (·.1))
    (hqualifier : own.qualifier ∈ sets.map (·.1)) (name : String) : (sets.add own).fieldsOf name =
      if own.table = name ∨ own.qualifier = name then insertField (sets.fieldsOf name) own.field
      else sets.fieldsOf name := by
  unfold add
  split
  · next hsame => simp only [fieldsOf_extend htable, hsame, or_self, List.foldl_cons,
      List.foldl_nil]
  · next halias =>
      rw [fieldsOf_extend (by rwa [names_extend]), fieldsOf_extend htable]
      simp only [List.foldl_cons, List.foldl_nil]
      by_cases heq : own.qualifier = name
      · have hother : own.table ≠ name := fun h => halias (heq.trans h.symm)
        rw [if_pos heq, if_neg hother, if_pos (.inr heq)]
      · simp only [heq, if_false, or_false]

/-- Without repeated names, the entries are told by their names and what is found under them. -/
theorem filter_eq_map {sets : FieldSets} (hnames : (sets.map (·.1)).Nodup) (p : String → Bool) :
    sets.filter (fun entry => p entry.1) =
      ((sets.map (·.1)).filter p).map fun name => (name, sets.fieldsOf name) := by
  rw [List.filter_map, List.map_map]
  refine (List.map_id _).symm.trans (List.map_congr_left fun entry hentry => ?_)
  rw [Function.comp_apply, fieldsOf_of_mem hnames (List.mem_filter.1 hentry).1]
  rfl

/-! ## The union with the fields of aliases -/

theorem foldl_insertField_of_subset {fields new : List String} (h : new ⊆ fields) :
    new.foldl insertField fields = fields := by
  induction new with
  | nil => rfl
  | cons f new ih =>
      obtain ⟨hf, hnew⟩ := List.cons_subset.1 h
      have hstep : insertField fields f = fields := by simp [insertField, hf]
      rw [List.foldl_cons, hstep, ih hnew]

/-- Fields that are there are passed over. -/
theorem extend_eq_self {sets : FieldSets} (hnames : (sets.map (·.1)).Nodup) {name : String}
    {fields : List String} (h : fields ⊆ sets.fieldsOf name) : sets.extend name fields = sets := by
  refine (List.map_congr_left fun entry hentry => ?_).trans (List.map_id sets)
  split
  · next hname =>
      obtain rfl : entry.1 = name := beq_iff_eq.1 hname
      rw [fieldsOf_of_mem hnames hentry] at h
      rw [foldl_insertField_of_subset h]
      rfl
  · rfl

/-- The union changes nothing if the fields under each alias are among those under its table. -/
theorem merge_eq_self {c : Catalog} {sets : FieldSets} (hnames : (sets.map (·.1)).Nodup)
    (h : ∀ b ∈ c.aliases, sets.fieldsOf b.1 ⊆ sets.fieldsOf b.2) : merge c sets = sets :=
  List.foldlRecOn (motive := fun united => united = sets) c.aliases _ rfl
    fun united hunited b hb => by
    rw [hunited, extend_eq_self hnames (h b hb)]

/-- The fields of the columns that have the name, as alias or as table, in the order in which they
are met. -/
def fieldsUnder (name : String) (columns : List OwnedColumn) : List String :=
  ((columns.filter fun own => own.table = name ∨ own.qualifier = name).map OwnedColumn.field).foldl
    insertField []

theorem fieldsUnder_concat (name : String) (columns : List OwnedColumn) (own : OwnedColumn) :
    fieldsUnder name (columns ++ [own]) = if own.table = name ∨ own.qualifier = name then
      insertField (fieldsUnder name columns) own.field else fieldsUnder name columns := by
  simp only [fieldsUnder, List.filter_append, List.map_append, List.foldl_append,
    List.filter_singleton]
  split <;> simp_all

end FieldSets

/-! ## Reading a statement join by join -/

/-- What is known of a statement that is being read: its tables and aliases so far, and the fields
under them. -/
structure Inventory where
  catalog : Catalog
  sets : FieldSets

namespace Inventory

/-- Nothing read yet: there are the names of a catalog, and no fields. -/
def start (c : Catalog) : Inventory := ⟨c, FieldSets.ofCatalog c⟩

/-- Registers the table that a qualifier names, unless it is known as a table or an alias. -/
def register (r : Inventory) (qualifier : String) : Inventory :=
  if r.catalog.isUnknown qualifier then ⟨r.catalog.addTable qualifier, r.sets ++ [(qualifier, [])]⟩
  else r

/-- Adds a column whose table is known. -/
def see (r : Inventory) (own : OwnedColumn) : Inventory := { r with sets := r.sets.add own }

/-- The columns of a complete join. -/
def sides (c : Catalog) (w : WrittenJoin) : List OwnedColumn :=
  [⟨w.left, c.resolve w.left, w.leftColumn⟩, ⟨w.right, c.resolve w.right, w.rightColumn⟩]

/-- Reads a complete join: registers its tables, then adds its columns. -/
def join (r : Inventory) (w : WrittenJoin) : Inventory :=
  let known := (r.register w.left).register w.right
  (sides known.catalog w).foldl see known

/-- Reads a column of the projection or of the condition. -/
def column (r : Inventory) (c : ColumnRef) : Inventory := (r.catalog.owned? c).toList.foldl see r

/-- Reads a statement whose entries have a catalog. -/
def ofStatement (c : Catalog) (s : Statement) : Inventory :=
  let joined := (completeJoins s.joins).foldl join (start c)
  let projected := (s.projected.map ProjectedColumn.ref).foldl column joined
  (s.condition.map Condition.left).toList.foldl column projected

/-- The names have one entry each, those of tables in the order of the tables, and under each name
are the fields of the columns. -/
structure Lists (r : Inventory) (columns : List OwnedColumn) : Prop where
  catalog : r.catalog.WellFormed
  names_nodup : (r.sets.map (·.1)).Nodup
  mem_names_iff : ∀ name, name ∈ r.sets.map (·.1) ↔ r.catalog.Knows name
  tables_eq : (r.sets.map (·.1)).filter r.catalog.isTable = r.catalog.tables
  known : ∀ own ∈ columns, own.Known r.catalog
  fields : ∀ name, r.sets.fieldsOf name = FieldSets.fieldsUnder name columns

variable {r : Inventory} {columns : List OwnedColumn} {qualifier : String}

/-! ### Steps -/

theorem lists_start {c : Catalog} (h : c.WellFormed) : (start c).Lists [] where
  catalog := h
  names_nodup := by
    simp only [start, FieldSets.ofCatalog, List.map_map, Function.comp_def, List.map_id']
    refine List.nodup_append.2 ⟨h.tables_nodup, h.aliases_nodup, ?_⟩
    rintro t ht a ha rfl
    obtain ⟨b, hb, rfl⟩ := List.mem_map.1 ha
    exact h.disjoint b hb ht
  mem_names_iff := fun name => by
    rw [start, FieldSets.mem_names_ofCatalog_iff, ← Catalog.isTable_iff]
    rfl
  tables_eq := by
    simp only [start, FieldSets.ofCatalog, List.map_map, Function.comp_def, List.map_id',
      List.filter_append]
    have htables : c.tables.filter c.isTable = c.tables :=
      List.filter_eq_self.2 fun t ht => (c.isTable_iff t).2 ht
    have haliases : (c.aliases.map (·.1)).filter c.isTable = [] := by
      refine List.filter_eq_nil_iff.2 fun a ha htable => ?_
      obtain ⟨b, hb, rfl⟩ := List.mem_map.1 ha
      exact h.disjoint b hb ((c.isTable_iff b.1).1 htable)
    rw [htables, haliases, List.append_nil]
  known := by simp
  fields := fun name => by
    rw [start, FieldSets.ofCatalog, FieldSets.fieldsOf, List.find?_map]
    cases (c.tables ++ c.aliases.map (·.1)).find? _ <;> rfl

/-- Both names of a column are known. -/
theorem Lists.mem_names (h : r.Lists columns) {own : OwnedColumn} (hown : own.Known r.catalog) :
    own.table ∈ r.sets.map (·.1) ∧ own.qualifier ∈ r.sets.map (·.1) := by
  rw [h.mem_names_iff, h.mem_names_iff]
  refine ⟨.inl ((Catalog.isTable_iff _ _).2 hown.table), ?_⟩
  by_cases heq : own.qualifier = r.catalog.resolve own.qualifier
  · rw [heq, hown.qualifier]
    exact .inl ((Catalog.isTable_iff _ _).2 hown.table)
  · exact .inr ((Catalog.isAlias_iff _ _).2 ⟨_, Catalog.mem_aliases_of_resolve_ne heq⟩)

theorem Lists.see (h : r.Lists columns) {own : OwnedColumn} (hown : own.Known r.catalog) :
    (r.see own).Lists (columns ++ [own]) where
  catalog := h.catalog
  names_nodup := by simpa [Inventory.see] using h.names_nodup
  mem_names_iff := by simpa only [Inventory.see, FieldSets.names_add] using h.mem_names_iff
  tables_eq := by simpa only [Inventory.see, FieldSets.names_add] using h.tables_eq
  known := by
    intro other hother
    rcases List.mem_append.1 hother with hother | hother
    · exact h.known other hother
    · exact List.mem_singleton.1 hother ▸ hown
  fields := fun name => by
    obtain ⟨htable, hqualifier⟩ := h.mem_names hown
    rw [Inventory.see, FieldSets.fieldsOf_add htable hqualifier, h.fields,
      FieldSets.fieldsUnder_concat]

theorem catalog_register (r : Inventory) (qualifier : String) :
    (r.register qualifier).catalog = r.catalog.addUnknown qualifier := by
  rw [register, Catalog.isUnknown, Catalog.addUnknown]
  cases r.catalog.isTable qualifier || r.catalog.isAlias qualifier <;> rfl

theorem register_of_unknown (h : ¬ r.catalog.Knows qualifier) :
    r.register qualifier = ⟨r.catalog.addTable qualifier, r.sets ++ [(qualifier, [])]⟩ := by
  rw [← Catalog.isUnknown_eq_false_iff, Bool.not_eq_false] at h
  rw [register, if_pos h]

theorem register_of_knows (h : r.catalog.Knows qualifier) : r.register qualifier = r := by
  rw [register, (Catalog.isUnknown_eq_false_iff _ _).2 h]
  rfl

/-- A table that is registered comes behind the others, and has no fields. -/
theorem Lists.register (h : r.Lists columns) (qualifier : String) :
    (r.register qualifier).Lists columns := by
  by_cases hknown : r.catalog.Knows qualifier
  · rwa [register_of_knows hknown]
  have hfresh : qualifier ∉ r.sets.map (·.1) :=
    fun hmem => hknown ((h.mem_names_iff qualifier).1 hmem)
  obtain ⟨htable, halias⟩ : r.catalog.isTable qualifier = false ∧
      r.catalog.isAlias qualifier = false := by
    simpa only [Catalog.Knows, not_or, Bool.not_eq_true] using hknown
  have htables : (r.catalog.addTable qualifier).tables = r.catalog.tables ++ [qualifier] := by
    rw [Catalog.addTable, htable]
    rfl
  have hisTable : ∀ name, (r.catalog.addTable qualifier).isTable name = true ↔
      r.catalog.isTable name = true ∨ name = qualifier := fun name => by
    simp only [Catalog.isTable_iff, Catalog.mem_tables_addTable]
  have hisAlias : ∀ name,
      (r.catalog.addTable qualifier).isAlias name = r.catalog.isAlias name := fun name => by
    rw [Catalog.isAlias, Catalog.aliases_addTable, Catalog.isAlias]
  have hnames : List.map (·.1) (r.sets ++ [(qualifier, ([] : List String))]) =
      r.sets.map (·.1) ++ [qualifier] := by simp
  rw [register_of_unknown hknown]
  exact {
    catalog := h.catalog.addTable qualifier halias
    names_nodup := by
      rw [hnames]
      refine List.nodup_append.2 ⟨h.names_nodup, List.nodup_singleton _,
        fun name hname last hlast heq => ?_⟩
      exact hfresh (List.mem_singleton.1 hlast ▸ heq ▸ hname)
    mem_names_iff := fun name => by
      rw [hnames, List.mem_append, h.mem_names_iff, List.mem_singleton, Catalog.Knows,
        Catalog.Knows, hisTable, hisAlias]
      exact or_right_comm
    tables_eq := by
      have hold : (r.sets.map (·.1)).filter (r.catalog.addTable qualifier).isTable =
          (r.sets.map (·.1)).filter r.catalog.isTable := by
        refine List.filter_congr fun name hname => Bool.eq_iff_iff.2 ((hisTable name).trans ?_)
        exact or_iff_left fun heq => hfresh (heq ▸ hname)
      have hnew : [qualifier].filter (r.catalog.addTable qualifier).isTable = [qualifier] :=
        List.filter_cons_of_pos ((hisTable qualifier).2 (.inr rfl))
      rw [hnames, List.filter_append, hold, hnew, h.tables_eq, htables]
    known := fun own hown => by
      obtain ⟨htable, hresolves⟩ := h.known own hown
      refine ⟨(Catalog.mem_tables_addTable _ _ _).2 (.inl htable), ?_⟩
      rwa [Catalog.resolve, Catalog.aliases_addTable]
    fields := fun name => by rw [FieldSets.fieldsOf_concat_empty, h.fields] }

/-! ### Runs -/

/-- Columns whose tables are known are added one after the other. -/
theorem Lists.foldl_see (h : r.Lists columns) {more : List OwnedColumn}
    (hmore : ∀ own ∈ more, own.Known r.catalog) :
    (more.foldl Inventory.see r).Lists (columns ++ more) ∧
      (more.foldl Inventory.see r).catalog = r.catalog := by
  induction more generalizing r columns with
  | nil => exact ⟨by rwa [List.append_nil], rfl⟩
  | cons own more ih =>
      obtain ⟨hown, hrest⟩ := List.forall_mem_cons.1 hmore
      have hrun := ih (h.see hown) hrest
      rwa [List.append_assoc] at hrun

/-- What an alias stands for does not depend on the tables. -/
theorem sides_congr {c d : Catalog} (h : c.aliases = d.aliases) (w : WrittenJoin) :
    sides c w = sides d w := by
  simp only [sides, Catalog.resolve, h]

theorem Lists.join (h : r.Lists columns) (w : WrittenJoin) :
    (r.join w).Lists (columns ++ sides r.catalog w) ∧
      (r.join w).catalog = r.catalog.withJoined [w] := by
  have hknown := (h.register w.left).register w.right
  have hcatalog : ((r.register w.left).register w.right).catalog = r.catalog.withJoined [w] := by
    rw [catalog_register, catalog_register]
    rfl
  have haliases : (r.catalog.withJoined [w]).aliases = r.catalog.aliases := by
    rw [Catalog.withJoined_eq]
  have hsides : ∀ own ∈ sides (r.catalog.withJoined [w]) w,
      own.Known (r.catalog.withJoined [w]) := by
    have hwf := h.catalog.withJoined [w]
    have hknows := fun q hq => hwf.resolve_mem_tables
      (Catalog.knows_withJoined r.catalog (List.mem_singleton_self w) (q := q) hq)
    intro own hown
    simp only [sides, List.mem_cons, List.not_mem_nil, or_false] at hown
    rcases hown with rfl | rfl
    · exact ⟨hknows w.left (.inl rfl), rfl⟩
    · exact ⟨hknows w.right (.inr rfl), rfl⟩
  rw [← hcatalog] at hsides haliases
  obtain ⟨hrun, hkept⟩ := hknown.foldl_see hsides
  rw [← sides_congr haliases]
  exact ⟨hrun, hkept.trans hcatalog⟩

theorem Lists.foldl_join (h : r.Lists columns) (joins : List WrittenJoin) :
    (joins.foldl Inventory.join r).Lists
      (columns ++ joins.flatMap (sides (r.catalog.withJoined joins))) ∧
      (joins.foldl Inventory.join r).catalog = r.catalog.withJoined joins := by
  induction joins generalizing r columns with
  | nil => exact ⟨by rwa [List.flatMap_nil, List.append_nil], rfl⟩
  | cons w joins ih =>
      obtain ⟨hstep, hfirst⟩ := h.join w
      obtain ⟨hrun, hlater⟩ := ih hstep
      have hcatalog : (r.join w).catalog.withJoined joins = r.catalog.withJoined (w :: joins) := by
        rw [hfirst]
        rfl
      have haliases : r.catalog.aliases = (r.catalog.withJoined (w :: joins)).aliases := by
        rw [Catalog.withJoined_eq]
      rw [hcatalog] at hrun hlater
      rw [List.flatMap_cons, ← List.append_assoc, ← sides_congr haliases]
      exact ⟨hrun, hlater⟩

theorem Lists.column (h : r.Lists columns) (c : ColumnRef) :
    (r.column c).Lists (columns ++ (r.catalog.owned? c).toList) ∧
      (r.column c).catalog = r.catalog :=
  h.foldl_see fun _ hown => known_of_owned? h.catalog (Option.mem_toList.1 hown)

private theorem filterMap_cons_toList (f : ColumnRef → Option OwnedColumn) (c : ColumnRef)
    (refs : List ColumnRef) : (c :: refs).filterMap f = (f c).toList ++ refs.filterMap f := by
  rw [List.filterMap_cons]
  cases f c <;> rfl

theorem Lists.foldl_column (h : r.Lists columns) (refs : List ColumnRef) :
    (refs.foldl Inventory.column r).Lists (columns ++ refs.filterMap r.catalog.owned?) ∧
      (refs.foldl Inventory.column r).catalog = r.catalog := by
  induction refs generalizing r columns with
  | nil => exact ⟨by rwa [List.filterMap_nil, List.append_nil], rfl⟩
  | cons c refs ih =>
      obtain ⟨hstep, hfirst⟩ := h.column c
      obtain ⟨hrun, hlater⟩ := ih hstep
      rw [hfirst] at hrun hlater
      rw [filterMap_cons_toList, ← List.append_assoc, List.foldl_cons]
      exact ⟨hrun, hlater⟩

/-- A statement that is read join by join has the columns that it has when all its tables are
known before. -/
theorem lists_ofStatement {c : Catalog} (h : c.WellFormed) (s : Statement) :
    let d := c.withJoined (completeJoins s.joins)
    (ofStatement c s).Lists (ownedColumns d (completeJoins s.joins) s) ∧
      (ofStatement c s).catalog = d := by
  intro d
  obtain ⟨hjoined, hcatalog⟩ := (lists_start h).foldl_join (completeJoins s.joins)
  obtain ⟨hprojected, hkept⟩ := hjoined.foldl_column (s.projected.map ProjectedColumn.ref)
  obtain ⟨hread, hkept'⟩ := hprojected.foldl_column (s.condition.map Condition.left).toList
  rw [hcatalog] at hprojected hkept
  rw [hkept] at hread hkept'
  have hfiltered : ∀ f : ColumnRef → Option OwnedColumn,
      (s.condition.map Condition.left).toList.filterMap f =
        (s.condition.bind fun condition => f condition.left).toList := fun f => by
    cases s.condition with
    | none => rfl
    | some condition => exact (filterMap_cons_toList f condition.left []).trans (List.append_nil _)
  have hcolumns : ownedColumns d (completeJoins s.joins) s =
      (completeJoins s.joins).flatMap (sides d) ++
        (s.projected.map ProjectedColumn.ref).filterMap d.owned? ++
        (s.condition.map Condition.left).toList.filterMap d.owned? := by
    rw [ownedColumns, List.filterMap_map, hfiltered]
    rfl
  rw [hcolumns]
  exact ⟨by rwa [hcatalog] at hread, hkept'⟩

/-- All tables may be known before any column is added. -/
theorem lists_collect {c : Catalog} (h : c.WellFormed) {columns : List OwnedColumn}
    (hknown : ∀ own ∈ columns, own.Known c) : Lists ⟨c, FieldSets.collect c columns⟩ columns := by
  have hrun : ∀ sets : FieldSets, columns.foldl see ⟨c, sets⟩ =
      ⟨c, columns.foldl FieldSets.add sets⟩ := by
    induction columns with
    | nil => exact fun _ => rfl
    | cons own columns ih => exact fun sets => ih (List.forall_mem_cons.1 hknown).2 (sets.add own)
  have hlists := ((lists_start h).foldl_see hknown).1
  rwa [start, hrun] at hlists

/-! ### Fields under aliases -/

/-- The fields under an alias are among those under its table. -/
theorem Lists.fieldsOf_subset (h : r.Lists columns) : ∀ b ∈ r.catalog.aliases,
    r.sets.fieldsOf b.1 ⊆ r.sets.fieldsOf b.2 := by
  intro b hb field hfield
  have hcollect := lists_collect h.catalog h.known
  rw [h.fields, ← hcollect.fields, FieldSets.mem_fieldsOf_iff hcollect.names_nodup] at hfield ⊢
  exact FieldSets.holds_collect_table h.catalog h.known hb hfield

/-- Uniting the fields of aliases with those of their tables changes nothing. -/
theorem Lists.merge_eq (h : r.Lists columns) : FieldSets.merge r.catalog r.sets = r.sets :=
  FieldSets.merge_eq_self h.names_nodup h.fieldsOf_subset

/-- The entries of tables are told by the columns. -/
theorem Lists.tables (h : r.Lists columns) :
    r.sets.filter (fun entry => r.catalog.isTable entry.1 && !r.catalog.isAlias entry.1) =
      r.catalog.tables.map fun t => (t, FieldSets.fieldsUnder t columns) := by
  let shows := fun name => r.catalog.isTable name && !r.catalog.isAlias name
  have hnames : (r.sets.map (·.1)).filter shows = r.catalog.tables := by
    rw [← h.tables_eq]
    refine List.filter_congr fun name _ => ?_
    cases htable : r.catalog.isTable name with
    | false => simp only [shows, htable, Bool.false_and]
    | true =>
        have halias := h.catalog.isAlias_of_mem_tables ((Catalog.isTable_iff _ _).1 htable)
        simp only [shows, htable, halias, Bool.not_false, Bool.true_and]
  rw [FieldSets.filter_eq_map h.names_nodup shows, hnames]
  exact List.map_congr_left fun t _ => by rw [h.fields]

end Inventory

/-! ## Graphs without the union -/

/-- Draws a plan, or tells the fault that prevents it. -/
def Plan.draw (p : Plan) (o : Options) : Except GraphFault Graph := do
  let sketch ← p.sketch o
  if sketch.nodes.isEmpty then return Graph.placeholder
  else
    let graph : Graph := ⟨sketch.nodes, sketch.links, false, AliasMap.ofList p.catalog.aliases⟩
    graph.check
    return graph

/-- Of the fields under each name, those under aliases do not matter. -/
theorem Plan.draw_congr {p : Plan} {fields : FieldSets}
    (h : fields.filter (fun entry => p.catalog.isTable entry.1 && !p.catalog.isAlias entry.1) =
      p.fields.filter fun entry => p.catalog.isTable entry.1 && !p.catalog.isAlias entry.1)
    (o : Options) : Plan.draw { p with fields } o = p.draw o := by
  have hshown : Plan.shown { p with fields } = p.shown := by
    rw [Plan.shown, Plan.shown, h]
  have hfields : ∀ s : Sketch, s.drawFields { p with fields } = s.drawFields p := fun s => by
    rw [Sketch.drawFields_eq, hshown]
    rfl
  have hrelations : ∀ (rs : List Relation) (s : Sketch),
      Sketch.drawRelations { p with fields } s rs = Sketch.drawRelations p s rs := by
    intro rs
    induction rs with
    | nil => exact fun _ => rfl
    | cons r rs ih =>
        intro s
        have hstep : Sketch.drawRelation { p with fields } s r = Sketch.drawRelation p s r := rfl
        rw [Sketch.drawRelations, Sketch.drawRelations, hstep]
        cases Sketch.drawRelation p s r with
        | error fault => rfl
        | ok s => exact ih s
  have hsketch : Plan.sketch { p with fields } o = p.sketch o := by
    rw [Plan.sketch, Plan.sketch, hfields, hrelations]
  rw [Plan.draw, Plan.draw, hsketch]

namespace Statement

/-- The fields under each name before the union, when all tables are known before. -/
def collected (s : Statement) : FieldSets :=
  FieldSets.collect s.catalog (ownedColumns s.catalog (completeJoins s.joins) s)

/-- The statement, read join by join up to the union. -/
def inventory (s : Statement) : Inventory := Inventory.ofStatement (Catalog.ofEntries s.tables) s

/-- Draws a statement as if its plan had these fields under each name. -/
def drawWith (s : Statement) (fields : FieldSets) (o : Options) : Except GraphFault Graph := do
  Plan.draw { Plan.ofStatement (← Catalog.ofTables s.tables) s o with fields } o

/-- The graph of a statement, if its plan had these fields under each name. -/
def graphWith (s : Statement) (fields : FieldSets) (o : Options) : Graph :=
  match s.drawWith fields o with
  | .ok graph => graph
  | .error fault => .diagnostic fault.message

end Statement

theorem ofTables_eq_ok {entries : List TableRef} {c : Catalog}
    (h : Catalog.ofTables entries = .ok c) :
    c = Catalog.ofEntries entries := by
  unfold Catalog.ofTables at h
  split at h
  · exact absurd h (by simp)
  · exact (Except.ok.inj h).symm

/-- The plan of a statement has the union of the fields. -/
theorem plan_eq_merged (s : Statement) (o : Options) :
    s.plan o = { s.plan o with fields := FieldSets.merge s.catalog s.collected } := rfl

/-- A statement is drawn with the union. -/
theorem draw_eq_drawWith (s : Statement) (o : Options) :
    s.draw o = s.drawWith (FieldSets.merge s.catalog s.collected) o := by
  unfold Statement.draw Statement.drawWith
  cases h : Catalog.ofTables s.tables with
  | error fault => rfl
  | ok c =>
      obtain rfl := ofTables_eq_ok h
      exact congrArg (Plan.draw · o) (plan_eq_merged s o)

theorem lists_collected (s : Statement) : Inventory.Lists ⟨s.catalog, s.collected⟩
    (ownedColumns s.catalog (completeJoins s.joins) s) :=
  Inventory.lists_collect (wellFormed_catalog s)
    (known_ownedColumns (wellFormed_catalog s) (knows_catalog s) s)

theorem lists_inventory (s : Statement) :
    s.inventory.Lists (ownedColumns s.catalog (completeJoins s.joins) s) ∧
      s.inventory.catalog = s.catalog :=
  Inventory.lists_ofStatement (Catalog.wellFormed_ofEntries s.tables) s

/-- The fields that are read join by join make the same drawing as those that are collected when
all tables are known. -/
theorem drawWith_inventory (s : Statement) (o : Options) :
    s.drawWith s.inventory.sets o = s.drawWith s.collected o := by
  obtain ⟨hinventory, hcatalog⟩ := lists_inventory s
  have htables := hinventory.tables
  rw [hcatalog, ← (lists_collected s).tables] at htables
  unfold Statement.drawWith
  cases h : Catalog.ofTables s.tables with
  | error fault => rfl
  | ok c =>
      obtain rfl := ofTables_eq_ok h
      exact Plan.draw_congr (p := { s.plan o with fields := s.collected }) htables o

/-- When the fields of aliases are about to be united with those of their tables, each alias
stands for a table, and the fields under the alias are among those under the table.  So the union
changes neither the fields under any name nor their order, and without it the graph is the same.
This holds whether all tables are registered before any column is added, or each join registers
its own: the fields under each name are the same. -/
theorem graph_unmerged (s : Statement) (o : Options) :
    let c := s.catalog
    let sets := s.inventory.sets
    (s.inventory.catalog = c ∧ ∀ name, sets.fieldsOf name = s.collected.fieldsOf name) ∧
      (∀ b ∈ c.aliases, b.2 ∈ c.tables ∧ sets.fieldsOf b.1 ⊆ sets.fieldsOf b.2) ∧
      (FieldSets.merge c sets = sets ∧ FieldSets.merge c s.collected = s.collected) ∧
      s.graph o = s.graphWith (FieldSets.merge c s.collected) o ∧
      s.graphWith s.collected o = s.graph o ∧ s.graphWith sets o = s.graph o := by
  intro c sets
  obtain ⟨hinventory, hcatalog⟩ := lists_inventory s
  have hcollected := lists_collected s
  have hsubset := hinventory.fieldsOf_subset
  have hmerge := hinventory.merge_eq
  rw [hcatalog] at hsubset hmerge
  have hunion : s.graph o = s.graphWith (FieldSets.merge c s.collected) o := by
    rw [Statement.graph, draw_eq_drawWith]
    rfl
  have hgraph : s.graphWith s.collected o = s.graph o := by rw [hunion, hcollected.merge_eq]
  have hread : s.graphWith sets o = s.graphWith s.collected o := by
    rw [Statement.graphWith, Statement.graphWith, drawWith_inventory]
  exact ⟨⟨hcatalog, fun name => (hinventory.fields name).trans (hcollected.fields name).symm⟩,
    fun b hb => ⟨(wellFormed_catalog s).targets b hb, hsubset b hb⟩,
      ⟨hmerge, hcollected.merge_eq⟩, hunion,
    hgraph, hread.trans hgraph⟩

/-- A join through an alias to a table without an entry, which comes last. -/
example : (Statement.inventory
    { tables := [⟨"users", some "u"⟩, ⟨"items", none⟩]
      joins := [⟨"orders", none, some ⟨some "u", "id"⟩, some ⟨some "orders", "user"⟩⟩]
      projected := [⟨some "users", "name", none⟩, ⟨some "u", "mail", none⟩]
      condition := none }).sets =
    [("users", ["id", "name", "mail"]), ("items", []), ("u", ["id", "mail"]),
      ("orders", ["user"])] := by
  decide

end JoinGraph
