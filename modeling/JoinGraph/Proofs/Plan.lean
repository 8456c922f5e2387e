import JoinGraph.Proofs.Column

/-!
# The plan of a statement

A plan is made before anything is drawn.  `Plan.WellFormed` is all that drawing needs of it: a
well-formed catalog, and relations whose ends are known to it.

## Main results

* `wellFormed_plan` — every statement has a well-formed plan.
* `mem_shown_plan_iff` — which fields are drawn with the tables.
-/

namespace JoinGraph

/-- The catalog of a statement: of its entries, then of its complete joins. -/
def Statement.catalog (s : Statement) : Catalog :=
  (Catalog.ofEntries s.tables).withJoined (completeJoins s.joins)

/-- The plan of a statement none of whose entries is blank. -/
def Statement.plan (s : Statement) (o : Options) : Plan :=
  Plan.ofStatement (Catalog.ofEntries s.tables) s o

theorem wellFormed_catalog (s : Statement) : s.catalog.WellFormed :=
  (Catalog.wellFormed_ofEntries s.tables).withJoined _

/-- The catalog knows both qualifiers of every complete join. -/
theorem knows_catalog (s : Statement) : ∀ w ∈ completeJoins s.joins,
    s.catalog.Knows w.left ∧ s.catalog.Knows w.right :=
  fun _ hw => ⟨Catalog.knows_withJoined _ hw (.inl rfl), Catalog.knows_withJoined _ hw (.inr rfl)⟩

/-- The statement names a table: it has an entry, or a complete join. -/
def Statement.NamesTable (s : Statement) : Prop := s.tables ≠ [] ∨ ∃ j ∈ s.joins, j.IsComplete

/-- A table is an entry, or a qualifier of a complete join. -/
theorem entry_or_qualifier_of_mem_tables {s : Statement} {t : String} (ht : t ∈ s.catalog.tables) :
    (∃ e ∈ s.tables, Text.trim e.name = t) ∨
      ∃ w ∈ completeJoins s.joins, t = w.left ∨ t = w.right := by
  rcases (Catalog.mem_tables_withJoined_iff _ _ t).1 ht with ht | ⟨hw, -⟩
  · exact .inl ((Catalog.mem_tables_ofEntries s.tables t).1 ht)
  · exact .inr hw

/-- There are tables exactly if the statement names one. -/
theorem tables_catalog_ne_nil_iff (s : Statement) : s.catalog.tables ≠ [] ↔ s.NamesTable := by
  rw [Statement.NamesTable, ← exists_mem_completeJoins_iff]
  constructor
  · intro hne
    obtain ⟨t, ht⟩ := List.exists_mem_of_ne_nil _ hne
    rcases entry_or_qualifier_of_mem_tables ht with ⟨e, he, -⟩ | ⟨w, hw, -⟩
    · exact .inl (List.ne_nil_of_mem he)
    · exact .inr ⟨w, hw⟩
  · rintro (hne | ⟨w, hw⟩)
    · obtain ⟨e, he⟩ := List.exists_mem_of_ne_nil _ hne
      have ht := (Catalog.mem_tables_ofEntries s.tables _).2 ⟨e, he, rfl⟩
      exact List.ne_nil_of_mem ((Catalog.mem_tables_withJoined_iff _ _ _).2 (.inl ht))
    · exact List.ne_nil_of_mem
        ((wellFormed_catalog s).resolve_mem_tables (knows_catalog s w hw).1)

@[simp] theorem catalog_plan (s : Statement) (o : Options) : (s.plan o).catalog = s.catalog := rfl

@[simp] theorem relations_plan (s : Statement) (o : Options) :
    (s.plan o).relations = relationsOf s.catalog (completeJoins s.joins) o := rfl

theorem fields_plan (s : Statement) (o : Options) : (s.plan o).fields = FieldSets.merge s.catalog
    (FieldSets.collect s.catalog (ownedColumns s.catalog (completeJoins s.joins) s)) := rfl

theorem labels_plan (s : Statement) (o : Options) :
    (s.plan o).labels = fieldLabels s.catalog (s.plan o).relations s := rfl

namespace Plan

/-- A catalog that is well formed, and relations whose ends are known to it. -/
structure WellFormed (p : Plan) : Prop where
  catalog : p.catalog.WellFormed
  known : ∀ r ∈ p.relations, r.Known p.catalog

/-- The fields that are drawn before any relation, each with its table. -/
def shown (p : Plan) : List (String × String) :=
  (p.fields.filter fun entry =>
    p.catalog.isTable entry.1 && !p.catalog.isAlias entry.1).flatMap fun entry =>
      entry.2.map fun field => (entry.1, field)

/-- The column is an end of a relation. -/
def Relates (p : Plan) (table field : String) : Prop :=
  ∃ r ∈ p.relations, (r.left.table = table ∧ r.left.field = field) ∨
    (r.right.table = table ∧ r.right.field = field)

/-- The columns for which a field may be drawn. -/
def Draws (p : Plan) (table field : String) : Prop :=
  (table, field) ∈ p.shown ∨ p.Relates table field

theorem mem_shown_iff {p : Plan} (h : p.catalog.WellFormed) (table field : String) :
    (table, field) ∈ p.shown ↔ table ∈ p.catalog.tables ∧ p.fields.Holds table field := by
  simp only [shown, List.mem_flatMap, List.mem_filter, Bool.and_eq_true, Catalog.isTable_iff,
    List.mem_map, Prod.mk.injEq, FieldSets.Holds]
  constructor
  · rintro ⟨entry, ⟨hentry, htable, -⟩, f, hf, rfl, rfl⟩
    exact ⟨htable, entry, hentry, rfl, hf⟩
  · rintro ⟨htable, entry, hentry, rfl, hf⟩
    exact ⟨entry, ⟨hentry, htable, by simp [h.isAlias_of_mem_tables htable]⟩, field, hf, rfl, rfl⟩

/-- Fields are drawn for tables only. -/
theorem WellFormed.mem_tables_of_draws {p : Plan} (h : p.WellFormed) {table field : String}
    (hd : p.Draws table field) : table ∈ p.catalog.tables := by
  rcases hd with hd | ⟨r, hr, ⟨rfl, -⟩ | ⟨rfl, -⟩⟩
  · exact ((mem_shown_iff h.catalog table field).1 hd).1
  · exact (h.known r hr).1.table
  · exact (h.known r hr).2.table

theorem relates_left {p : Plan} {r : Relation} (hr : r ∈ p.relations) :
    p.Relates r.left.table r.left.field := ⟨r, hr, .inl ⟨rfl, rfl⟩⟩

theorem relates_right {p : Plan} {r : Relation} (hr : r ∈ p.relations) :
    p.Relates r.right.table r.right.field := ⟨r, hr, .inr ⟨rfl, rfl⟩⟩

end Plan

/-- Every statement has a well-formed plan. -/
theorem wellFormed_plan (s : Statement) (o : Options) : (s.plan o).WellFormed where
  catalog := wellFormed_catalog s
  known := known_relationsOf (wellFormed_catalog s) (knows_catalog s) o

/-- With the tables are drawn the sides of complete joins, the projected columns and the column of
the condition, as far as they have a table. -/
theorem mem_shown_plan_iff (s : Statement) (o : Options) (table field : String) :
    (table, field) ∈ (s.plan o).shown ↔
      JoinsOn s.catalog (completeJoins s.joins) table field ∨
        Projects s.catalog s table field ∨ FiltersOn s.catalog s table field := by
  have hwf := wellFormed_catalog s
  have hknown := known_ownedColumns hwf (knows_catalog s) s
  rw [Plan.mem_shown_iff hwf, ← exists_ownedColumns_iff, fields_plan]
  constructor
  · rintro ⟨htable, hholds⟩
    exact (FieldSets.holds_table_iff hwf hknown htable field).1 hholds
  · rintro ⟨own, hown, rfl, rfl⟩
    have htable := (hknown own hown).table
    exact ⟨htable, (FieldSets.holds_table_iff hwf hknown htable _).2 ⟨own, hown, rfl, rfl⟩⟩

end JoinGraph
