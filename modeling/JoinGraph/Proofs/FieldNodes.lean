import JoinGraph.Proofs.Outcome

/-!
# The fields of a graph

A column of a table is observed as a side of a complete join, in the projection, in the condition,
or as an end of a guess.  A field is drawn for an observed column unless its identifier is taken.
So if the identifiers tell the observed columns apart, the fields of the graph are these columns,
each once.

## Main results

* `draws_plan_iff` — a field may be drawn for exactly the observed columns.
* `separate_of_dotFree` — tables without dots in their names keep the identifiers apart.
* `columns_graph` — the fields of a graph are the observed columns.
-/

namespace JoinGraph

/-! ## Observed columns -/

namespace Statement

/-- The column is an end of a guess: no join is complete, and its table is next to another. -/
def Guesses (s : Statement) (o : Options) (table field : String) : Prop :=
  completeJoins s.joins = [] ∧ o.infersJoins = true ∧
    ∃ left right, [left, right] <:+: s.catalog.tables ∧
      ((left = table ∧ "id" = field) ∨ (right = table ∧ left ++ "_id" = field))

/-- The column is joined on, by a complete join or a guess. -/
def Relates (s : Statement) (o : Options) (table field : String) : Prop :=
  JoinsOn s.catalog (completeJoins s.joins) table field ∨ s.Guesses o table field

/-- The column is a side of a complete join, projected, in the condition, or an end of a guess. -/
def Observes (s : Statement) (o : Options) (table field : String) : Prop :=
  JoinsOn s.catalog (completeJoins s.joins) table field ∨ Projects s.catalog s table field ∨
    FiltersOn s.catalog s table field ∨ s.Guesses o table field

/-- The identifiers tell the observed columns apart. -/
def Separate (s : Statement) (o : Options) : Prop :=
  ∀ t f t' f', s.Observes o t f → s.Observes o t' f' → fieldId t f = fieldId t' f' →
    t = t' ∧ f = f'

/-- No table, and no qualifier of a join, has a dot in its name. -/
structure DotFree (s : Statement) : Prop where
  tables : ∀ t ∈ s.tables, '.' ∉ t.name.toList
  qualifiers : ∀ j ∈ s.joins, ∀ c, j.left = some c ∨ j.right = some c →
    ∀ q, c.table = some q → '.' ∉ q.toList

instance (s : Statement) : Decidable s.DotFree :=
  decidable_of_iff
    ((∀ t ∈ s.tables, '.' ∉ t.name.toList) ∧ ∀ j ∈ s.joins, ∀ c ∈ j.left.toList ++ j.right.toList,
      ∀ q ∈ c.table, '.' ∉ q.toList)
    ⟨fun h => ⟨h.1, fun j hj c hc => h.2 j hj c (by simpa using hc)⟩,
      fun h => ⟨h.tables, fun j hj c hc => h.qualifiers j hj c (by simpa using hc)⟩⟩

end Statement

/-- The ends of the relations of a statement are the columns that it joins on. -/
theorem relates_plan_iff (s : Statement) (o : Options) (table field : String) :
    (s.plan o).Relates table field ↔ s.Relates o table field := by
  simp only [Plan.Relates, relations_plan, Statement.Relates, Statement.Guesses]
  by_cases hjoins : completeJoins s.joins = []
  · have hnone : ¬ JoinsOn s.catalog [] table field := by simp [JoinsOn]
    rw [hjoins, relationsOf_nil]
    cases o.infersJoins with
    | false => simp [hnone]
    | true =>
        simp only [if_true, guesses_eq (wellFormed_catalog s), ← mem_consecutivePairs_iff, hnone,
          false_or, true_and]
        constructor
        · rintro ⟨r, hr, hends⟩
          obtain ⟨p, hp, rfl⟩ := List.mem_map.1 hr
          exact ⟨p.1, p.2, hp, hends⟩
        · rintro ⟨left, right, hp, hends⟩
          exact ⟨_, List.mem_map_of_mem hp, hends⟩
  · rw [relationsOf_of_ne_nil _ hjoins]
    simp only [hjoins, false_and, or_false, JoinsOn]
    constructor
    · rintro ⟨r, hr, hends⟩
      obtain ⟨w, hw, rfl⟩ := List.mem_map.1 hr
      exact ⟨w, hw, hends⟩
    · rintro ⟨w, hw, hends⟩
      exact ⟨_, List.mem_map_of_mem hw, hends⟩

/-- A field may be drawn for exactly the observed columns. -/
theorem draws_plan_iff (s : Statement) (o : Options) (table field : String) :
    (s.plan o).Draws table field ↔ s.Observes o table field := by
  rw [Plan.Draws, mem_shown_plan_iff, relates_plan_iff, Statement.Relates, Statement.Observes]
  tauto

theorem mem_tables_of_observes {s : Statement} {o : Options} {table field : String}
    (h : s.Observes o table field) : table ∈ s.catalog.tables :=
  (wellFormed_plan s o).mem_tables_of_draws ((draws_plan_iff s o table field).2 h)

/-! ## Identifiers of observed columns -/

private theorem dot_not_mem_trim {s : String} (h : '.' ∉ s.toList) :
    '.' ∉ (Text.trim s).toList := by
  intro hmem
  rw [Text.trim, String.toList_ofList] at hmem
  exact h (Text.trimChars_subset _ hmem)

/-- The tables of a statement without dots have no dot, trimmed as they are. -/
theorem dot_not_mem_of_dotFree {s : Statement} (h : s.DotFree) {t : String}
    (ht : t ∈ s.catalog.tables) : '.' ∉ t.toList := by
  rcases entry_or_qualifier_of_mem_tables ht with ⟨e, he, rfl⟩ | ⟨w, hw, hq⟩
  · exact dot_not_mem_trim (h.tables e he)
  · obtain ⟨j, hj, hw⟩ := List.mem_filterMap.1 hw
    obtain ⟨l, r, hl, hr, hsl, hsr⟩ := (WrittenJoin.ofJoin?_eq_some_iff j w).1 hw
    obtain ⟨⟨⟨ql, hql, htl⟩, -⟩, -⟩ := (WrittenJoin.side?_eq_some_iff _ _ _).1 hsl
    obtain ⟨⟨⟨qr, hqr, htr⟩, -⟩, -⟩ := (WrittenJoin.side?_eq_some_iff _ _ _).1 hsr
    rcases hq with rfl | rfl
    · exact htl ▸ dot_not_mem_trim (h.qualifiers j hj l (.inl hl) ql hql)
    · exact htr ▸ dot_not_mem_trim (h.qualifiers j hj r (.inr hr) qr hqr)

/-- Tables without dots in their names keep the identifiers apart, whatever the columns are. -/
theorem separate_of_dotFree {s : Statement} (h : s.DotFree) (o : Options) : s.Separate o :=
  fun _ _ _ _ hcolumn hcolumn' => fieldId_inj_of_no_dot
    (dot_not_mem_of_dotFree h (mem_tables_of_observes hcolumn))
    (dot_not_mem_of_dotFree h (mem_tables_of_observes hcolumn'))

/-! ## The fields of a graph -/

/-- A field has a join target exactly if it is an end of a relation. -/
theorem isSome_joinTarget?_iff (rs : List Relation) (table field : String) :
    (joinTarget? rs table field).isSome = true ↔
      ∃ r ∈ rs, (r.left.table = table ∧ r.left.field = field) ∨
        (r.right.table = table ∧ r.right.field = field) := by
  simp [joinTarget?, Relation.targets, Relation.target]

/-- The column of a field: the table it names, and its own name. -/
def Node.column (n : Node) : String × String := (Graph.ownerOf n, n.ownName)

/-- The node is the field of a column.  It is a result if its name is projected, and a join field
with a target if the column is joined on. -/
structure Node.Shows (n : Node) (s : Statement) (o : Options) (table field : String) : Prop where
  id_eq : n.id = fieldId table field
  table_eq : n.table? = some table
  name_eq : n.ownName = field
  result_iff : n.isResult = true ↔ ∃ p ∈ s.projected, Text.nonBlank? p.column = some field
  joinField_iff : n.isJoinField = true ↔ s.Relates o table field
  isSome_target : n.joinTarget?.isSome = n.isJoinField
  target_eq : n.joinTarget? =
    JoinGraph.joinTarget? (relationsOf s.catalog (completeJoins s.joins) o) table field

/-- The fields of the graph are the observed columns, each once. -/
structure Graph.ShowsColumns (g : Graph) (s : Statement) (o : Options) : Prop where
  nodup : (g.fields.map Node.column).Nodup
  members : ∀ table field, (table, field) ∈ g.fields.map Node.column ↔ s.Observes o table field
  shows : ∀ n ∈ g.fields, n.Shows s o n.column.1 n.column.2

/-- A field that is drawn is the field of its column. -/
theorem shows_fieldNode (s : Statement) (o : Options) (table field label : String) :
    (Sketch.fieldNode (s.plan o) table field label).Shows s o table field where
  id_eq := rfl
  table_eq := rfl
  name_eq := rfl
  result_iff := by
    have hresults : (s.plan o).results = resultNames s := rfl
    simp [Node.isResult, Sketch.fieldNode, Node.ofField, hresults, resultNames]
  joinField_iff := by
    rw [← relates_plan_iff]
    exact isSome_joinTarget?_iff (s.plan o).relations table field
  isSome_target := rfl
  target_eq := rfl

/-- Every field of the drawing shows an observed column. -/
theorem shows_of_mem_fields {s : Statement} {o : Options} {n : Node}
    (hn : n ∈ (s.drawnGraph o).fields) :
    s.Observes o n.column.1 n.column.2 ∧ n.Shows s o n.column.1 n.column.2 := by
  obtain ⟨hmem, hkind⟩ := List.mem_filter.1 hn
  obtain ⟨table, field, label, hd, rfl⟩ :=
    (drawn_statement s o).fields n hmem (beq_iff_eq.1 hkind)
  exact ⟨(draws_plan_iff s o table field).1 hd, shows_fieldNode s o table field label⟩

/-- What is not shown with the tables is guessed, and of guesses none is left out. -/
theorem exists_first_of_observes {s : Statement} {o : Options} {table field : String}
    (h : s.Observes o table field) (hshown : (table, field) ∉ (s.plan o).shown) :
    ∃ r ∈ firstsBy Relation.tables (s.plan o).relations,
      (r.left.table = table ∧ r.left.field = field) ∨
        (r.right.table = table ∧ r.right.field = field) := by
  rw [mem_shown_plan_iff] at hshown
  have hguess : s.Guesses o table field := by
    rw [Statement.Observes] at h
    tauto
  have hfirst : firstsBy Relation.tables (s.plan o).relations = (s.plan o).relations := by
    rw [relations_plan, hguess.1]
    exact firstsBy_relationsOf_nil (wellFormed_catalog s) o
  rw [hfirst]
  exact (relates_plan_iff s o table field).2 (.inr hguess)

/-- Every observed column has a field with its identifier. -/
theorem has_of_observes {s : Statement} {o : Options} {table field : String}
    (h : s.Observes o table field) :
    ((s.plan o).drawing o).has (fieldId table field) = true := by
  have hp := wellFormed_plan s o
  by_cases hshown : (table, field) ∈ (s.plan o).shown
  · exact Plan.has_of_shown hp o hshown
  obtain ⟨r, hr, hends⟩ := exists_first_of_observes h hshown
  obtain ⟨hleft, hright⟩ := Plan.has_of_first hp o hr
  rcases hends with ⟨rfl, rfl⟩ | ⟨rfl, rfl⟩
  · exact hleft
  · exact hright

/-- No column has two fields: they would have one identifier. -/
theorem nodup_columns_drawnGraph (s : Statement) (o : Options) :
    ((s.drawnGraph o).fields.map Node.column).Nodup := by
  have hids : ((s.drawnGraph o).fields.map Node.id).Nodup :=
    (drawn_statement s o).ids_nodup.sublist (List.filter_sublist.map Node.id)
  have hspelled : (s.drawnGraph o).fields.map Node.id =
      ((s.drawnGraph o).fields.map Node.column).map fun c => fieldId c.1 c.2 := by
    rw [List.map_map]
    exact List.map_congr_left fun n hn => (shows_of_mem_fields hn).2.id_eq
  exact List.Nodup.of_map _ (hspelled ▸ hids)

/-- If the identifiers tell the observed columns apart, each of them has a field of its own. -/
theorem mem_columns_of_observes {s : Statement} {o : Options} (h : s.Separate o)
    {table field : String} (hobserved : s.Observes o table field) :
    (table, field) ∈ (s.drawnGraph o).fields.map Node.column := by
  obtain ⟨n, hn, hid⟩ := (Sketch.has_iff _ _).1 (has_of_observes hobserved)
  have hfield : n ∈ (s.drawnGraph o).fields :=
    List.mem_filter.2 ⟨hn, by simp [(drawn_statement s o).kind_of_fieldId hn hid]⟩
  obtain ⟨hobserved', hshows⟩ := shows_of_mem_fields hfield
  obtain ⟨htable, hname⟩ := h _ _ _ _ hobserved' hobserved (hshows.id_eq.symm.trans hid)
  exact List.mem_map.2 ⟨n, hfield, Prod.ext htable hname⟩

theorem showsColumns_drawnGraph {s : Statement} {o : Options} (h : s.Separate o) :
    (s.drawnGraph o).ShowsColumns s o where
  nodup := nodup_columns_drawnGraph s o
  members := by
    intro table field
    constructor
    · intro hmem
      obtain ⟨n, hn, heq⟩ := List.mem_map.1 hmem
      simpa [heq] using (shows_of_mem_fields hn).1
    · exact mem_columns_of_observes h
  shows := fun _ hn => (shows_of_mem_fields hn).2

/-- If the identifiers tell the observed columns apart, as they do when no table has a dot in its
name, the fields of the graph are the observed columns, each once.  A statement that names no table
observes nothing, and the placeholder stands for it. -/
theorem columns_graph (s : Statement) (o : Options)
    (hnamed : ∀ t ∈ s.tables, Text.trim t.name ≠ "") :
    (s.DotFree → s.Separate o) ∧
      (s.NamesTable → s.Separate o → (s.graph o).ShowsColumns s o) ∧
      (¬ s.NamesTable → s.graph o = .placeholder ∧ ∀ table field, ¬ s.Observes o table field) := by
  rw [graph_of_named hnamed, Statement.namedGraph, ← tables_catalog_ne_nil_iff]
  refine ⟨fun h => separate_of_dotFree h o, fun htables hseparate => ?_, fun hnone => ?_⟩
  · rw [if_neg htables]
    exact showsColumns_drawnGraph hseparate
  · have hnone := not_not.1 hnone
    refine ⟨if_pos hnone, fun table field hobserved => ?_⟩
    simpa [hnone] using mem_tables_of_observes hobserved

/-- Two tables in a row without a join, one of them projected from under its alias. -/
def twoInARow : Statement :=
  ⟨[⟨"users", some "u"⟩, ⟨"orders", none⟩], [], [⟨some "u", "name", none⟩], none⟩

/-- The projected column and the two ends of the guess are shown; nothing is shown of nothing. -/
theorem columns_graph_twoInARow :
    ((∀ t ∈ twoInARow.tables, Text.trim t.name ≠ "") ∧ twoInARow.DotFree ∧ twoInARow.NamesTable ∧
        (twoInARow.graph .default).ShowsColumns twoInARow .default ∧
        (twoInARow.graph .default).fields.map Node.column =
          [("users", "name"), ("users", "id"), ("orders", "users_id")]) ∧
      (∀ t ∈ Statement.empty.tables, Text.trim t.name ≠ "") ∧ ¬ Statement.empty.NamesTable ∧
        Statement.empty.graph .default = .placeholder := by
  have hnamed : ∀ t ∈ twoInARow.tables, Text.trim t.name ≠ "" := by decide
  have hdots : twoInARow.DotFree := ⟨by decide, by simp [twoInARow]⟩
  have htable : twoInARow.NamesTable := .inl (by decide)
  have hempty : ∀ t ∈ Statement.empty.tables, Text.trim t.name ≠ "" := by decide
  have hnone : ¬ Statement.empty.NamesTable := by simp [Statement.NamesTable, Statement.empty]
  obtain ⟨hseparate, hshows, -⟩ := columns_graph twoInARow .default hnamed
  obtain ⟨-, -, hplaceholder⟩ := columns_graph .empty .default hempty
  exact ⟨⟨hnamed, hdots, htable, hshows htable (hseparate hdots), by decide +kernel⟩, hempty, hnone,
    (hplaceholder hnone).1⟩

/-- A column with a blank name in the projection of its table. -/
def blankColumn : Statement := ⟨[⟨"users", none⟩], [], [⟨some "users", " ", none⟩], none⟩

/-- The placeholder has a field although its statement observes no column, and a projected column
with a blank name has no field although it has a table. -/
theorem columns_graph_exceptions :
    ((∀ t ∈ Statement.empty.tables, Text.trim t.name ≠ "") ∧ Statement.empty.Separate .default ∧
        (Statement.empty.graph .default).fields.map Node.column = [("Query Result", "data")] ∧
        ¬ (Statement.empty.graph .default).ShowsColumns .empty .default) ∧
      (∀ t ∈ blankColumn.tables, Text.trim t.name ≠ "") ∧ blankColumn.DotFree ∧
        (∃ p ∈ blankColumn.projected, blankColumn.catalog.Owns p.ref "users") ∧
        (blankColumn.graph .default).fields = [] := by
  have hnone : ∀ t f, ¬ Statement.empty.Observes .default t f :=
    fun t f h => List.not_mem_nil (mem_tables_of_observes h)
  have hfields : (Statement.empty.graph .default).fields.map Node.column =
      [("Query Result", "data")] := by decide +kernel
  refine ⟨⟨by decide, fun t f _ _ h => absurd h (hnone t f), hfields, fun h => ?_⟩, by decide,
    ⟨by decide, by simp [blankColumn]⟩, ?_, by decide +kernel⟩
  · exact hnone _ _ ((h.members "Query Result" "data").1 (by simp [hfields]))
  · exact ⟨_, List.mem_singleton.2 rfl, .inl ⟨"users", by decide +kernel⟩⟩

end JoinGraph
