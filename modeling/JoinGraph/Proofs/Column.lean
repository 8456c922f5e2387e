import JoinGraph.Drawing.Column
import JoinGraph.Proofs.Relation

/-!
# Columns under the names of their tables

A column is collected under the name of its table and under the alias it was written with, and the
fields of an alias are united with those of its table at the end.  `FieldSets.Holds` says what is
collected, without regard to order; under the name of a table it is exactly the columns of the
table, before and after the union.

## Main results

* `exists_owned?_iff` — which columns have a table.
* `FieldSets.holds_merge_iff` — the union with the aliases adds nothing.
* `FieldSets.holds_table_iff` — what is collected under the name of a table.
-/

namespace JoinGraph

/-! ## Owners -/

/-- The table of a column: the one its qualifier resolves to, or without a qualifier the only
one. -/
def Catalog.Owns (c : Catalog) (column : ColumnRef) (table : String) : Prop :=
  (∃ q, column.table.bind Text.nonBlank? = some q ∧ c.resolve q = table ∧ table ∈ c.tables) ∨
    (column.table.bind Text.nonBlank? = none ∧ c.tables = [table])

/-- A column of a table of the catalog, written with a name of that table. -/
structure OwnedColumn.Known (c : Catalog) (column : OwnedColumn) : Prop where
  table : column.table ∈ c.tables
  qualifier : c.resolve column.qualifier = column.table

theorem owner?_eq_some_iff (c : Catalog) (column : ColumnRef) (q table : String) :
    c.owner? column = some (q, table) ↔
      (column.table.bind Text.nonBlank? = some q ∧ c.resolve q = table ∧ table ∈ c.tables) ∨
        (column.table.bind Text.nonBlank? = none ∧ c.tables = [table] ∧ q = table) := by
  unfold Catalog.owner?
  split
  · next q' hq =>
      rw [hq]
      by_cases hmem : c.resolve q' ∈ c.tables
      · simp only [Catalog.isTable_iff, hmem, if_true, Option.some.injEq, Prod.mk.injEq,
          reduceCtorEq, false_and, or_false]
        exact ⟨by rintro ⟨rfl, rfl⟩; exact ⟨rfl, rfl, hmem⟩,
          by rintro ⟨rfl, rfl, -⟩; exact ⟨rfl, rfl⟩⟩
      · simp only [Catalog.isTable_iff, hmem, if_false, reduceCtorEq, Option.some.injEq,
          false_and, or_false, false_iff]
        rintro ⟨rfl, rfl, ht⟩
        exact hmem ht
  · next hq =>
      rw [hq]
      cases htables : c.tables with
      | nil => simp
      | cons only rest =>
          cases rest with
          | nil =>
              simp only [Option.some.injEq, Prod.mk.injEq, reduceCtorEq, false_and, true_and,
                false_or, List.cons.injEq, and_true]
              exact ⟨by rintro ⟨rfl, rfl⟩; exact ⟨rfl, rfl⟩, by rintro ⟨rfl, rfl⟩; exact ⟨rfl, rfl⟩⟩
          | cons _ _ => simp

theorem exists_owner?_iff (c : Catalog) (column : ColumnRef) (table : String) :
    (∃ q, c.owner? column = some (q, table)) ↔ c.Owns column table := by
  simp only [owner?_eq_some_iff, Catalog.Owns]
  constructor
  · rintro ⟨q, h | ⟨hnone, htables, -⟩⟩
    · exact .inl ⟨q, h⟩
    · exact .inr ⟨hnone, htables⟩
  · rintro (⟨q, h⟩ | ⟨hnone, htables⟩)
    · exact ⟨q, .inl h⟩
    · exact ⟨table, .inr ⟨hnone, htables, rfl⟩⟩

theorem owned?_eq_some_iff (c : Catalog) (column : ColumnRef) (own : OwnedColumn) :
    c.owned? column = some own ↔
      Text.nonBlank? column.column = some own.field ∧
        c.owner? column = some (own.qualifier, own.table) := by
  obtain ⟨q, table, field⟩ := own
  simp only [Catalog.owned?, Option.bind_eq_bind, Option.pure_def, Option.bind_eq_some_iff,
    Option.some.injEq, OwnedColumn.mk.injEq]
  constructor
  · rintro ⟨f, hf, ⟨q', t'⟩, ho, rfl, rfl, rfl⟩
    exact ⟨hf, ho⟩
  · rintro ⟨hf, ho⟩
    exact ⟨field, hf, (q, table), ho, rfl, rfl, rfl⟩

/-- The columns with a table are those whose name is not blank and whose qualifier tells the
table. -/
theorem exists_owned?_iff (c : Catalog) (column : ColumnRef) (table field : String) :
    (∃ own, c.owned? column = some own ∧ own.table = table ∧ own.field = field) ↔
      Text.nonBlank? column.column = some field ∧ c.Owns column table := by
  rw [← exists_owner?_iff]
  constructor
  · rintro ⟨own, h, rfl, rfl⟩
    obtain ⟨hf, ho⟩ := (owned?_eq_some_iff c column own).1 h
    exact ⟨hf, own.qualifier, ho⟩
  · rintro ⟨hf, q, ho⟩
    exact ⟨⟨q, table, field⟩, (owned?_eq_some_iff c column _).2 ⟨hf, ho⟩, rfl, rfl⟩

theorem known_of_owned? {c : Catalog} (h : c.WellFormed) {column : ColumnRef} {own : OwnedColumn}
    (ho : c.owned? column = some own) : own.Known c := by
  rcases (owner?_eq_some_iff c column _ _).1 ((owned?_eq_some_iff c column own).1 ho).2 with
    ⟨-, hresolve, hmem⟩ | ⟨-, htables, hq⟩
  · exact ⟨hmem, hresolve⟩
  · have hmem : own.table ∈ c.tables := by simp [htables]
    exact ⟨hmem, hq ▸ h.resolve_table (hq ▸ hmem)⟩

/-! ## The columns of a statement -/

/-- The column is a side of a complete join. -/
def JoinsOn (c : Catalog) (joins : List WrittenJoin) (table field : String) : Prop :=
  ∃ w ∈ joins, (c.resolve w.left = table ∧ w.leftColumn = field) ∨
    (c.resolve w.right = table ∧ w.rightColumn = field)

/-- The column is projected. -/
def Projects (c : Catalog) (s : Statement) (table field : String) : Prop :=
  ∃ p ∈ s.projected, Text.nonBlank? p.column = some field ∧ c.Owns p.ref table

/-- The column is the left side of the condition. -/
def FiltersOn (c : Catalog) (s : Statement) (table field : String) : Prop :=
  ∃ condition, s.condition = some condition ∧
    Text.nonBlank? condition.left.column = some field ∧ c.Owns condition.left table

theorem exists_ownedColumns_iff (c : Catalog) (joins : List WrittenJoin) (s : Statement)
    (table field : String) :
    (∃ own ∈ ownedColumns c joins s, own.table = table ∧ own.field = field) ↔
      JoinsOn c joins table field ∨ Projects c s table field ∨ FiltersOn c s table field := by
  simp only [ownedColumns, List.mem_append, or_assoc, or_and_right, exists_or]
  refine or_congr ?_ (or_congr ?_ ?_)
  · simp only [JoinsOn, List.mem_flatMap, List.mem_cons, List.not_mem_nil, or_false]
    constructor
    · rintro ⟨own, ⟨w, hw, rfl | rfl⟩, rfl, rfl⟩
      · exact ⟨w, hw, .inl ⟨rfl, rfl⟩⟩
      · exact ⟨w, hw, .inr ⟨rfl, rfl⟩⟩
    · rintro ⟨w, hw, ⟨rfl, rfl⟩ | ⟨rfl, rfl⟩⟩
      · exact ⟨_, ⟨w, hw, .inl rfl⟩, rfl, rfl⟩
      · exact ⟨_, ⟨w, hw, .inr rfl⟩, rfl, rfl⟩
  · simp only [Projects, List.mem_filterMap]
    constructor
    · rintro ⟨own, ⟨p, hp, ho⟩, heq⟩
      exact ⟨p, hp, (exists_owned?_iff c p.ref table field).1 ⟨own, ho, heq⟩⟩
    · rintro ⟨p, hp, hcolumn⟩
      obtain ⟨own, ho, heq⟩ := (exists_owned?_iff c p.ref table field).2 hcolumn
      exact ⟨own, ⟨p, hp, ho⟩, heq⟩
  · simp only [FiltersOn, ← exists_owned?_iff, Option.mem_toList, Option.bind_eq_some_iff]
    constructor
    · rintro ⟨own, ⟨condition, hc, ho⟩, heq⟩
      exact ⟨condition, hc, own, ho, heq⟩
    · rintro ⟨condition, hc, own, ho, heq⟩
      exact ⟨own, ⟨condition, hc, ho⟩, heq⟩

/-- All columns that are collected have a known table. -/
theorem known_ownedColumns {c : Catalog} (h : c.WellFormed) {joins : List WrittenJoin}
    (hjoins : ∀ w ∈ joins, c.Knows w.left ∧ c.Knows w.right) (s : Statement) :
    ∀ own ∈ ownedColumns c joins s, own.Known c := by
  intro own hown
  simp only [ownedColumns, List.mem_append, List.mem_flatMap, List.mem_cons, List.not_mem_nil,
    or_false, List.mem_filterMap, Option.mem_toList, Option.bind_eq_some_iff] at hown
  rcases hown with (⟨w, hw, rfl | rfl⟩ | ⟨p, -, ho⟩) | ⟨condition, -, ho⟩
  · exact ⟨h.resolve_mem_tables (hjoins w hw).1, rfl⟩
  · exact ⟨h.resolve_mem_tables (hjoins w hw).2, rfl⟩
  · exact known_of_owned? h ho
  · exact known_of_owned? h ho

/-! ## Field sets -/

namespace FieldSets

/-- The field is listed under the name. -/
def Holds (sets : FieldSets) (name field : String) : Prop :=
  ∃ entry ∈ sets, entry.1 = name ∧ field ∈ entry.2

theorem mem_insertField (fields : List String) (new f : String) :
    f ∈ insertField fields new ↔ f ∈ fields ∨ f = new := by
  unfold insertField
  split
  · next h =>
      have hmem : new ∈ fields := by simpa using h
      exact ⟨.inl, fun hf => hf.elim id fun heq => heq ▸ hmem⟩
  · simp

theorem mem_foldl_insertField (fields new : List String) (f : String) :
    f ∈ new.foldl insertField fields ↔ f ∈ fields ∨ f ∈ new := by
  induction new generalizing fields with
  | nil => simp
  | cons x new ih => rw [List.foldl_cons, ih, mem_insertField, List.mem_cons, or_assoc]

theorem holds_of_mem_fieldsOf {sets : FieldSets} {name field : String}
    (h : field ∈ sets.fieldsOf name) : sets.Holds name field := by
  unfold fieldsOf at h
  split at h
  · next entry hfind =>
      obtain ⟨hmem, hname⟩ := mem_of_find?_key hfind
      exact ⟨entry, hmem, hname, h⟩
  · simp at h

@[simp] theorem names_extend (sets : FieldSets) (name : String) (fields : List String) :
    (sets.extend name fields).map (·.1) = sets.map (·.1) := by
  rw [extend, List.map_map]
  refine List.map_congr_left fun entry _ => ?_
  simp only [Function.comp_apply]
  split <;> rfl

/-- Fields are added under one name, and only if it is there. -/
theorem holds_extend_iff (sets : FieldSets) (name : String) (fields : List String) (m f : String) :
    (sets.extend name fields).Holds m f ↔
      sets.Holds m f ∨ (m = name ∧ name ∈ sets.map (·.1) ∧ f ∈ fields) := by
  simp only [Holds, extend, List.mem_map]
  constructor
  · rintro ⟨_, ⟨entry, hmem, rfl⟩, hm, hf⟩
    split at hf
    · next hname =>
        have hname : entry.1 = name := by simpa using hname
        simp only [hname, beq_self_eq_true, if_true] at hm
        rcases (mem_foldl_insertField entry.2 fields f).1 hf with hf | hf
        · exact .inl ⟨entry, hmem, hname.trans hm, hf⟩
        · exact .inr ⟨hm.symm, ⟨entry, hmem, hname⟩, hf⟩
    · next hname => exact .inl ⟨entry, hmem, by simpa [hname] using hm, hf⟩
  · rintro (⟨entry, hmem, rfl, hf⟩ | ⟨rfl, ⟨entry, hmem, hname⟩, hf⟩)
    · refine ⟨_, ⟨entry, hmem, rfl⟩, ?_, ?_⟩
      · split <;> rfl
      · split
        · exact (mem_foldl_insertField entry.2 fields f).2 (.inl hf)
        · exact hf
    · refine ⟨_, ⟨entry, hmem, rfl⟩, ?_, ?_⟩
      · simp [hname]
      · simp only [hname, beq_self_eq_true, if_true]
        exact (mem_foldl_insertField entry.2 fields f).2 (.inr hf)

/-- A column is added to the entries under both names of its table. -/
theorem add_eq (sets : FieldSets) (own : OwnedColumn) : sets.add own = sets.map fun entry =>
    if entry.1 = own.table ∨ entry.1 = own.qualifier then (entry.1, insertField entry.2 own.field)
    else entry := by
  unfold add extend
  split
  · next hq => simp [hq]
  · next hq =>
      simp only [List.map_map, List.foldl_cons, List.foldl_nil, beq_iff_eq]
      refine List.map_congr_left fun entry _ => ?_
      by_cases htable : entry.1 = own.table <;> by_cases hqualifier : entry.1 = own.qualifier <;>
        grind

@[simp] theorem names_add (sets : FieldSets) (own : OwnedColumn) :
    (sets.add own).map (·.1) = sets.map (·.1) := by
  unfold add
  split <;> simp

/-- A column is added under the two names of its table. -/
theorem holds_add_iff (sets : FieldSets) (own : OwnedColumn) (m f : String) :
    (sets.add own).Holds m f ↔ sets.Holds m f ∨
      (m ∈ sets.map (·.1) ∧ (m = own.table ∨ m = own.qualifier) ∧ f = own.field) := by
  unfold add
  split
  · next heq =>
      rw [holds_extend_iff, heq, List.mem_singleton]
      grind
  · rw [holds_extend_iff, names_extend, holds_extend_iff, List.mem_singleton]
    grind

private theorem holds_foldl_add_iff (columns : List OwnedColumn) (sets : FieldSets) (m f : String) :
    (columns.foldl add sets).Holds m f ↔ sets.Holds m f ∨
      (m ∈ sets.map (·.1) ∧ ∃ own ∈ columns, (m = own.table ∨ m = own.qualifier) ∧
        f = own.field) := by
  induction columns generalizing sets with
  | nil => simp
  | cons own columns ih =>
      rw [List.foldl_cons, ih, names_add, holds_add_iff]
      simp only [List.exists_mem_cons_iff]
      grind

/-- The names under which columns of a catalog are collected. -/
theorem mem_names_ofCatalog_iff (c : Catalog) (m : String) :
    m ∈ (ofCatalog c).map (·.1) ↔ m ∈ c.tables ∨ c.isAlias m = true := by
  simp [ofCatalog]

/-- What is collected: each column under the names of its table that the catalog knows. -/
theorem holds_collect_iff (c : Catalog) (columns : List OwnedColumn) (m f : String) :
    (collect c columns).Holds m f ↔ (m ∈ c.tables ∨ c.isAlias m = true) ∧
      ∃ own ∈ columns, (m = own.table ∨ m = own.qualifier) ∧ f = own.field := by
  have hnone : ¬ (ofCatalog c).Holds m f := by
    rintro ⟨entry, hmem, -, hf⟩
    obtain ⟨name, -, rfl⟩ := List.mem_map.1 hmem
    simp at hf
  rw [collect, holds_foldl_add_iff, mem_names_ofCatalog_iff]
  simp [hnone]

/-- The columns under an alias are also under its table. -/
theorem holds_collect_table {c : Catalog} (h : c.WellFormed) {columns : List OwnedColumn}
    (hknown : ∀ own ∈ columns, own.Known c) {b : String × String} (hb : b ∈ c.aliases) {f : String}
    (hf : (collect c columns).Holds b.1 f) : (collect c columns).Holds b.2 f := by
  obtain ⟨-, own, hown, hname, rfl⟩ := (holds_collect_iff c columns b.1 f).1 hf
  refine (holds_collect_iff c columns b.2 _).2 ⟨.inl (h.targets b hb), own, hown, .inl ?_, rfl⟩
  rcases hname with heq | heq
  · exact absurd (heq ▸ (hknown own hown).table) (h.disjoint b hb)
  · rw [← (hknown own hown).qualifier, ← heq]
    exact (h.resolve_alias hb).symm

/-- Uniting the fields of aliases with those of their tables adds nothing. -/
theorem holds_merge_iff {c : Catalog} (h : c.WellFormed) {columns : List OwnedColumn}
    (hknown : ∀ own ∈ columns, own.Known c) (m f : String) :
    (merge c (collect c columns)).Holds m f ↔ (collect c columns).Holds m f := by
  suffices hrun : ∀ (bindings : List (String × String)) (sets : FieldSets),
      (∀ b ∈ bindings, b ∈ c.aliases) →
      (∀ m f, sets.Holds m f ↔ (collect c columns).Holds m f) →
      ∀ m f, (bindings.foldl (fun s b => s.extend b.2 (s.fieldsOf b.1)) sets).Holds m f ↔
        (collect c columns).Holds m f from
    hrun c.aliases _ (fun _ hb => hb) (fun _ _ => Iff.rfl) m f
  intro bindings
  induction bindings with
  | nil => exact fun sets _ hsets => hsets
  | cons b rest ih =>
      intro sets hall hsets
      refine ih _ (fun b' hb' => hall b' (by simp [hb'])) fun m f => ?_
      rw [holds_extend_iff, hsets]
      refine ⟨fun hm => hm.elim id ?_, .inl⟩
      rintro ⟨rfl, -, hf⟩
      exact holds_collect_table h hknown (hall b (by simp))
        ((hsets _ _).1 (holds_of_mem_fieldsOf hf))

/-- Under the name of a table are exactly its columns. -/
theorem holds_table_iff {c : Catalog} (h : c.WellFormed) {columns : List OwnedColumn}
    (hknown : ∀ own ∈ columns, own.Known c) {t : String} (ht : t ∈ c.tables) (f : String) :
    (merge c (collect c columns)).Holds t f ↔ ∃ own ∈ columns, own.table = t ∧ own.field = f := by
  rw [holds_merge_iff h hknown, holds_collect_iff]
  constructor
  · rintro ⟨-, own, hown, rfl | rfl, rfl⟩
    · exact ⟨own, hown, rfl, rfl⟩
    · refine ⟨own, hown, ?_, rfl⟩
      rw [← (hknown own hown).qualifier, h.resolve_table ht]
  · rintro ⟨own, hown, rfl, rfl⟩
    exact ⟨.inl ht, own, hown, .inl rfl, rfl⟩

end FieldSets

end JoinGraph
