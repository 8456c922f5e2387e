import JoinGraph.Proofs.DrawingOptions
import JoinGraph.Proofs.FieldOrder

/-!
# The placeholder

The placeholder stands for exactly the statements that name no table.  It is recognized by its
form: two nodes, one of them with the identifier of its table (`Graph.isPlaceholder`).  A
statement may draw such a graph itself, if it names a table or an alias as the placeholder names
its own and draws one thing more: a column, an alias, or a second table (`Statement.DrawsAlike`).
The identifiers of fields would tell these graphs apart, since that of the placeholder names no
table.

## Main results

* `length_nodes_drawnGraph` — how many nodes are drawn.
* `drawsAlike_iff` — which drawn graphs have the form of the placeholder.
* `placeholder_graph` — which statements have the placeholder, and which a graph of its form.
-/

namespace JoinGraph

open JoinGraph.Graph (placeholderTable)

namespace Statement

/-- The columns that have a field: of the observed ones with the same identifier the first. -/
def drawnColumns (s : Statement) (o : Options) : List (String × String) :=
  firstsBy spelling (s.columns o)

/-- The statement draws two things, and one of them has the name of the table of the placeholder. -/
inductive DrawsAlike (s : Statement) (o : Options) : Prop where
  | column {c : String × String} (tables : s.catalog.tables = [placeholderTable])
      (aliases : s.catalog.aliases = []) (columns : s.drawnColumns o = [c])
  | alias {table name : String} (tables : s.catalog.tables = [table])
      (aliases : s.catalog.aliases = [(name, table)]) (columns : s.drawnColumns o = [])
      (named : table = placeholderTable ∨ name = placeholderTable)
  | tables {table other : String} (tables : s.catalog.tables = [table, other])
      (aliases : s.catalog.aliases = []) (columns : s.drawnColumns o = [])
      (named : table = placeholderTable ∨ other = placeholderTable)

end Statement

/-! ## The nodes of a drawing -/

/-- Each table, each alias and each column that has a field is one node. -/
theorem length_nodes_drawnGraph (s : Statement) (o : Options) : (s.drawnGraph o).nodes.length =
    s.catalog.tables.length + s.catalog.aliases.length + (s.drawnColumns o).length := by
  have hnodes : (s.drawnGraph o).nodes = _ := Plan.nodes_drawing_eq (wellFormed_plan s o) o
  have hcolumns : s.drawnColumns o =
      (firstsBy LabelledColumn.id (s.plan o).columns).map LabelledColumn.column := by
    rw [Statement.drawnColumns, Statement.columns, firstsBy_map]
    rfl
  rw [hnodes, hcolumns, catalog_plan, Sketch.tableNodes, List.length_append, List.length_append]
  simp only [List.length_map]

/-- The identifier of a table is taken if a table or an alias has its name. -/
theorem isSome_node?_drawnGraph (s : Statement) (o : Options) (name : String) :
    ((s.drawnGraph o).node? (tableId name)).isSome = true ↔ s.catalog.Knows name := by
  have hdrawn := drawn_statement s o
  rw [Graph.node?, List.find?_isSome]
  constructor
  · rintro ⟨n, hn, hid⟩
    have hid : n.id = tableId name := beq_iff_eq.1 hid
    cases hkind : n.kind with
    | field =>
        obtain ⟨table, field, label, -, rfl⟩ := hdrawn.fields n hn hkind
        exact absurd hid.symm (tableId_ne_fieldId name table field)
    | table =>
        have hmem : n ∈ Sketch.tableNodes s.catalog :=
          hdrawn.tables ▸ List.mem_filter.2 ⟨hn, by simp [hkind]⟩
        rcases List.mem_append.1 hmem with hmem | hmem
        · obtain ⟨t, ht, rfl⟩ := List.mem_map.1 hmem
          obtain rfl := (tableId_inj t name).1 hid
          exact .inl ((Catalog.isTable_iff _ _).2 ht)
        · obtain ⟨b, hb, rfl⟩ := List.mem_map.1 hmem
          obtain rfl := (tableId_inj b.1 name).1 hid
          exact .inr ((Catalog.isAlias_iff _ _).2 ⟨b.2, hb⟩)
  · intro hknown
    obtain ⟨n, hn, hid, -⟩ := hdrawn.exists_node hknown
    exact ⟨n, hn, beq_iff_eq.2 hid⟩

/-! ## Graphs of the form of the placeholder -/

/-- A drawn graph has the form of the placeholder if two things are drawn and its name is known. -/
theorem isPlaceholder_drawnGraph (s : Statement) (o : Options) :
    (s.drawnGraph o).isPlaceholder = true ↔ s.catalog.Knows placeholderTable ∧
      s.catalog.tables.length + s.catalog.aliases.length + (s.drawnColumns o).length = 2 := by
  have hdiagnostic : (s.drawnGraph o).isDiagnostic = false := rfl
  rw [Graph.isPlaceholder, hdiagnostic, Bool.not_false, Bool.true_and, Bool.and_eq_true, beq_iff_eq,
    isSome_node?_drawnGraph, length_nodes_drawnGraph]

/-- With a table there is room for one thing more: a column, an alias, or a second table. -/
theorem drawsAlike_iff {s : Statement} {o : Options} (htables : s.catalog.tables ≠ []) :
    s.DrawsAlike o ↔ s.catalog.Knows placeholderTable ∧
      s.catalog.tables.length + s.catalog.aliases.length + (s.drawnColumns o).length = 2 := by
  have hknows : s.catalog.Knows placeholderTable ↔ placeholderTable ∈ s.catalog.tables ∨
      ∃ table, (placeholderTable, table) ∈ s.catalog.aliases := by
    rw [Catalog.Knows, Catalog.isTable_iff, Catalog.isAlias_iff]
  rw [hknows]
  constructor
  · rintro (⟨htables, haliases, hcolumns⟩ | ⟨htables, haliases, hcolumns, hnamed⟩ |
      ⟨htables, haliases, hcolumns, hnamed⟩)
    · simp [htables, haliases, hcolumns]
    · simpa [htables, haliases, hcolumns, eq_comm] using hnamed
    · simpa [htables, haliases, hcolumns, eq_comm] using hnamed
  · rintro ⟨hnamed, hsize⟩
    have hpositive := List.length_pos_of_ne_nil htables
    obtain ⟨hone, haliases, hcolumns⟩ | ⟨hone, haliases, hcolumns⟩ | ⟨htwo, haliases, hcolumns⟩ :
        (s.catalog.tables.length = 1 ∧ s.catalog.aliases.length = 0 ∧
          (s.drawnColumns o).length = 1) ∨
        (s.catalog.tables.length = 1 ∧ s.catalog.aliases.length = 1 ∧
          (s.drawnColumns o).length = 0) ∨
        (s.catalog.tables.length = 2 ∧ s.catalog.aliases.length = 0 ∧
          (s.drawnColumns o).length = 0) := by
      omega
    · obtain ⟨table, htable⟩ := List.length_eq_one_iff.1 hone
      obtain ⟨c, hc⟩ := List.length_eq_one_iff.1 hcolumns
      have hnone := List.length_eq_zero_iff.1 haliases
      obtain rfl : table = placeholderTable := by simpa [htable, hnone, eq_comm] using hnamed
      exact .column htable hnone hc
    · obtain ⟨table, htable⟩ := List.length_eq_one_iff.1 hone
      obtain ⟨⟨name, target⟩, halias⟩ := List.length_eq_one_iff.1 haliases
      have htarget := (wellFormed_catalog s).targets (name, target) (by simp [halias])
      obtain rfl : target = table := by simpa [htable] using htarget
      exact .alias htable halias (List.length_eq_zero_iff.1 hcolumns)
        (by simpa [htable, halias, eq_comm] using hnamed)
    · obtain ⟨table, other, htable⟩ := List.length_eq_two.1 htwo
      have hnone := List.length_eq_zero_iff.1 haliases
      exact .tables htable hnone (List.length_eq_zero_iff.1 hcolumns)
        (by simpa [htable, hnone, eq_comm] using hnamed)

/-- No table is named if there are no entries and no join is complete. -/
theorem not_namesTable_iff (s : Statement) :
    ¬ s.NamesTable ↔ s.tables = [] ∧ ∀ j ∈ s.joins, ¬ j.IsComplete := by
  simp [Statement.NamesTable, not_or]

/-- The placeholder is the graph of exactly the statements that have no table and no complete
join.  A graph has its form in one other case: every table has a name, and what is drawn is a
table or an alias with the name of the placeholder and one thing more. -/
theorem placeholder_graph (s : Statement) (o : Options) :
    (s.graph o = .placeholder ↔ s.tables = [] ∧ ∀ j ∈ s.joins, ¬ j.IsComplete) ∧
      ((s.graph o).isPlaceholder = true ↔
        (s.tables = [] ∧ ∀ j ∈ s.joins, ¬ j.IsComplete) ∨
          ((∀ t ∈ s.tables, Text.trim t.name ≠ "") ∧ s.DrawsAlike o)) := by
  rw [← not_namesTable_iff]
  rcases exists_firstBlank_or s.tables with ⟨i, hi⟩ | hnamed
  · obtain ⟨hlt, hblank, -⟩ := id hi
    have hentry := List.getElem_mem hlt
    have hnames : s.NamesTable := .inl (List.ne_nil_of_mem hentry)
    have hgraph : s.graph o = .diagnostic (GraphFault.emptyTableName i).message := by
      rw [Statement.graph, draw_of_firstBlank hi]
    have hform : (s.graph o).isPlaceholder = false := by
      rw [hgraph]
      rfl
    refine ⟨iff_of_false (fun h => ?_) (not_not.2 hnames), iff_of_false (by simp [hform]) ?_⟩
    · rw [h] at hgraph
      exact Bool.false_ne_true (congrArg Graph.isDiagnostic hgraph)
    · rintro (hnone | ⟨hnamed, -⟩)
      · exact hnone hnames
      · exact hnamed _ hentry hblank
  · rw [graph_of_named hnamed, Statement.namedGraph, ← tables_catalog_ne_nil_iff, not_not]
    by_cases htables : s.catalog.tables = []
    · rw [if_pos htables]
      exact ⟨iff_of_true rfl htables, iff_of_true rfl (.inl htables)⟩
    · rw [if_neg htables, isPlaceholder_drawnGraph, ← drawsAlike_iff htables]
      exact ⟨iff_of_false (drawnGraph_ne_placeholder s o) htables,
        fun h => .inr ⟨hnamed, h⟩, fun h => h.elim (absurd · htables) And.right⟩

/-- One column of a table that has the name of the table of the placeholder. -/
def resultTable : Statement := ⟨[⟨"Query Result", none⟩], [], [⟨none, "total", none⟩], none⟩

/-- A table under an alias that has that name. -/
def resultAlias : Statement := ⟨[⟨"totals", some "Query Result"⟩], [], [], none⟩

/-- The graphs of a table with a column, and of a table with an alias, have the form of the
placeholder. -/
theorem placeholder_graph_named :
    (resultTable.tables ≠ [] ∧ (resultTable.graph .default).isPlaceholder = true ∧
        (resultTable.graph .default).fields.map Node.column = [("Query Result", "total")]) ∧
      resultAlias.tables ≠ [] ∧ (resultAlias.graph .default).isPlaceholder = true ∧
        (resultAlias.graph .default).nodes =
          [.ofTable "totals", .ofAlias "Query Result" "totals"] := by
  decide +kernel

end JoinGraph
