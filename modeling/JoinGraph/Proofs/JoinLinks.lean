import JoinGraph.Proofs.Outcome

/-!
# The joins of a graph

Complete joins are drawn once for each two tables, whatever names and columns they are written with.
The first one is drawn, as it is written: a link between the tables, and one between the fields.

## Main results

* `joins_graph` — the joins of a graph are the first complete joins of each pair of tables.
-/

namespace JoinGraph

/-! ## Complete joins as relations -/

namespace WrittenJoin

/-- The two tables that the join relates, without direction. -/
def tables (c : Catalog) (w : WrittenJoin) : Sym2 String := s(c.resolve w.left, c.resolve w.right)

/-- The link between the tables of the join. -/
def tableLink (c : Catalog) (w : WrittenJoin) : Link :=
  .ofJoin .tableJoin (tableId (c.resolve w.left)) (tableId (c.resolve w.right)) w.condition .parsed

/-- The link between the fields of the join. -/
def fieldLink (c : Catalog) (w : WrittenJoin) : Link :=
  .ofJoin .fieldJoin (fieldId (c.resolve w.left) w.leftColumn)
    (fieldId (c.resolve w.right) w.rightColumn) w.condition .parsed

end WrittenJoin

/-- The complete joins of the statement that are the first between their tables. -/
def Statement.firstJoins (s : Statement) : List WrittenJoin :=
  firstsBy (WrittenJoin.tables s.catalog) (completeJoins s.joins)

/-- The first relations of a statement are those of its first complete joins. -/
theorem first_relations_plan {s : Statement} (hjoins : completeJoins s.joins ≠ []) (o : Options) :
    firstsBy Relation.tables (s.plan o).relations =
      s.firstJoins.map (Relation.ofWritten s.catalog) := by
  rw [relations_plan, relationsOf_of_ne_nil _ hjoins, firstsBy_map]
  rfl

/-! ## The links of a graph -/

/-- The joins between tables under their own names. -/
def Graph.tableJoins (g : Graph) : List Link :=
  g.links.filter fun l => l.kind == .tableJoin && !l.isAliasJoin

/-- Joins are drawn for the first relations, and for no alias. -/
theorem filter_links_namedGraph {s : Statement} (hjoins : completeJoins s.joins ≠ []) (o : Options)
    (q : Link → Bool) (hfield : ∀ t f, q (.ofField t f) = false)
    (halias : ∀ name table, q (.ofAlias name table) = false)
    (hjoin : ∀ source target condition, q (.ofAliasJoin source target condition) = false) :
    (s.namedGraph o).links.filter q = (s.firstJoins.flatMap fun w =>
      [w.tableLink s.catalog, w.fieldLink s.catalog]).filter q := by
  have htables : s.catalog.tables ≠ [] := by
    obtain ⟨w, hw⟩ := List.exists_mem_of_ne_nil _ hjoins
    exact (tables_catalog_ne_nil_iff s).2
      (.inr ((exists_mem_completeJoins_iff s.joins).1 ⟨w, hw⟩))
  have hnone : (s.catalog.aliases.map fun b => Link.ofAlias b.1 b.2).filter q = [] := by
    refine List.filter_eq_nil_iff.2 fun l hl => ?_
    obtain ⟨b, -, rfl⟩ := List.mem_map.1 hl
    simp [halias]
  rw [Statement.namedGraph, if_neg htables, Statement.drawnGraph, Sketch.graph,
    Plan.filter_links_drawing (wellFormed_plan s o) o q hfield hjoin, catalog_plan, hnone,
    List.nil_append, first_relations_plan hjoins, List.flatMap_map]
  rfl

theorem tableJoins_namedGraph {s : Statement} (hjoins : completeJoins s.joins ≠ []) (o : Options) :
    (s.namedGraph o).tableJoins = s.firstJoins.map (WrittenJoin.tableLink s.catalog) := by
  rw [Graph.tableJoins, filter_links_namedGraph hjoins o _ (fun _ _ => rfl) (fun _ _ => rfl)
    (fun _ _ _ => rfl), List.filter_flatMap, List.map_eq_flatMap]
  rfl

theorem fieldJoins_namedGraph {s : Statement} (hjoins : completeJoins s.joins ≠ []) (o : Options) :
    (s.namedGraph o).linksOf .fieldJoin = s.firstJoins.map (WrittenJoin.fieldLink s.catalog) := by
  rw [Graph.linksOf, filter_links_namedGraph hjoins o _ (fun _ _ => rfl) (fun _ _ => rfl)
    (fun _ _ _ => rfl), List.filter_flatMap, List.map_eq_flatMap]
  rfl

/-- A complete join is one of `firstJoins` if none before it joins the same two tables. -/
theorem mem_firstJoins_iff (s : Statement) (w : WrittenJoin) :
    w ∈ s.firstJoins ↔ ∃ before after, completeJoins s.joins = before ++ w :: after ∧
      ∀ v ∈ before, v.tables s.catalog ≠ w.tables s.catalog :=
  mem_firstsBy_iff _ _ w

/-- If some join is complete, the joins of the graph are, in order, one for each two tables that a
complete join relates.  It is drawn as the first such join is written, between the tables and
between the fields, and no other fields are joined. -/
theorem joins_graph (s : Statement) (o : Options)
    (hnamed : ∀ t ∈ s.tables, Text.trim t.name ≠ "") (hjoin : ∃ j ∈ s.joins, j.IsComplete) :
    let c := s.catalog
    let condition := fun w : WrittenJoin =>
      w.left ++ "." ++ w.leftColumn ++ " = " ++ w.right ++ "." ++ w.rightColumn
    (s.graph o).tableJoins = s.firstJoins.map (fun w =>
        .ofJoin .tableJoin (tableId (c.resolve w.left)) (tableId (c.resolve w.right))
          (condition w) .parsed) ∧
      (s.graph o).linksOf .fieldJoin = s.firstJoins.map (fun w =>
        .ofJoin .fieldJoin (fieldId (c.resolve w.left) w.leftColumn)
          (fieldId (c.resolve w.right) w.rightColumn) (condition w) .parsed) ∧
      s.firstJoins.Sublist (completeJoins s.joins) ∧
      (s.firstJoins.map (WrittenJoin.tables c)).Nodup ∧
      (∀ w ∈ completeJoins s.joins, ∃ first ∈ s.firstJoins, first.tables c = w.tables c) ∧
      (∀ w, w ∈ s.firstJoins ↔ ∃ before after, completeJoins s.joins = before ++ w :: after ∧
        ∀ v ∈ before, v.tables c ≠ w.tables c) ∧
      ∀ w ∈ completeJoins s.joins, c.resolve w.left ∈ c.tables ∧ c.resolve w.right ∈ c.tables := by
  have hjoins : completeJoins s.joins ≠ [] := by
    obtain ⟨w, hw⟩ := (exists_mem_completeJoins_iff s.joins).2 hjoin
    exact List.ne_nil_of_mem hw
  have hwf := wellFormed_catalog s
  rw [graph_of_named hnamed]
  refine ⟨tableJoins_namedGraph hjoins o, fieldJoins_namedGraph hjoins o, firstsBy_sublist _ _,
    nodup_map_firstsBy _ _, fun w hw => exists_mem_firstsBy _ hw, mem_firstJoins_iff s,
    fun w hw => ?_⟩
  obtain ⟨hleft, hright⟩ := knows_catalog s w hw
  exact ⟨hwf.resolve_mem_tables hleft, hwf.resolve_mem_tables hright⟩

/-- A join written with aliases, the same join mirrored and with table names, and a join to a table
that has no entry. -/
def restatedJoins : Statement where
  tables := [⟨"users", some "u"⟩, ⟨"orders", some "o"⟩]
  joins :=
    [⟨"orders", some "o", some ⟨some " u", "id"⟩, some ⟨some "o", "user_id "⟩⟩,
      ⟨"users", none, some ⟨some "orders", "user_id"⟩, some ⟨some "users", "id"⟩⟩,
      ⟨"items", none, some ⟨some "o", "item"⟩, some ⟨some "items", "id"⟩⟩]
  projected := []
  condition := none

/-- The mirrored join is left out, and the first is drawn as it is written. -/
theorem joins_graph_restated :
    (∀ t ∈ restatedJoins.tables, Text.trim t.name ≠ "") ∧
      (∃ j ∈ restatedJoins.joins, j.IsComplete) ∧
      (restatedJoins.graph .default).tableJoins =
        [.ofJoin .tableJoin "table:users" "table:orders" "u.id = o.user_id" .parsed,
          .ofJoin .tableJoin "table:orders" "table:items" "o.item = items.id" .parsed] ∧
      (restatedJoins.graph .default).linksOf .fieldJoin =
        [.ofJoin .fieldJoin "field:users.id" "field:orders.user_id" "u.id = o.user_id" .parsed,
          .ofJoin .fieldJoin "field:orders.item" "field:items.id" "o.item = items.id" .parsed] := by
  have hnamed : ∀ t ∈ restatedJoins.tables, Text.trim t.name ≠ "" := by decide
  have hjoin : ∃ j ∈ restatedJoins.joins, j.IsComplete :=
    (exists_mem_completeJoins_iff _).1 ⟨⟨"u", "id", "o", "user_id"⟩, by decide⟩
  have hfirst : restatedJoins.firstJoins =
      [⟨"u", "id", "o", "user_id"⟩, ⟨"o", "item", "items", "id"⟩] := by decide +kernel
  obtain ⟨htables, hfields, -⟩ := joins_graph restatedJoins .default hnamed hjoin
  rw [hfirst] at htables hfields
  exact ⟨hnamed, hjoin, htables.trans (by decide), hfields.trans (by decide)⟩

end JoinGraph
