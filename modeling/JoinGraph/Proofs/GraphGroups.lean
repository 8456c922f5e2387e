import JoinGraph.Proofs.TableNodes
import JoinGraph.Render.Listing

/-!
# The groups of a graph

A graph is shown table by table.  `Graph.Grouped` is what this rests on: the tables and aliases of
a graph are told by their names, and each field names one of the tables as its own, as does each
side of a join.  So the fields of all tables are the fields of the graph, and each of its nodes is
a table, an alias or a field.

## Main results

* `exists_grouped_graph` — the graph of every statement is grouped.
* `Grouped.fields_perm` — each field is the field of one table.
* `Graph.nodes_perm` — each node is a table, an alias or a field.
* `exists_namesCondition` — the condition of a join is written with names of the graph.
-/

namespace JoinGraph

open Render (realTables fieldsOf realJoins)

/-- Items arranged by their keys are the items, each under one key. -/
theorem perm_flatMap_filter {α κ : Type} [DecidableEq κ] (key : α → Option κ) {keys : List κ}
    (hkeys : keys.Nodup) {items : List α} (hitems : ∀ a ∈ items, ∃ k ∈ keys, key a = some k) :
    (keys.flatMap fun k => items.filter fun a => key a == some k).Perm items := by
  induction keys generalizing items with
  | nil =>
      have hnone : items = [] := List.eq_nil_iff_forall_not_mem.2 fun a ha => by
        simpa using hitems a ha
      simp [hnone]
  | cons k keys ih =>
      obtain ⟨hk, hkeys⟩ := List.nodup_cons.1 hkeys
      -- The other keys find the same items among those that do not have the first key.
      have hrest : ∀ k' ∈ keys, (items.filter fun a => key a == some k') =
          (items.filter fun a => !(key a == some k)).filter fun a => key a == some k' := by
        intro k' hk'
        have hne : k' ≠ k := fun heq => hk (heq ▸ hk')
        rw [List.filter_filter]
        refine List.filter_congr fun a _ => ?_
        by_cases ha : key a = some k' <;> simp [ha, hne]
      rw [List.flatMap_cons, List.flatMap_congr hrest]
      refine ((ih hkeys fun a ha => ?_).append_left _).trans (List.filter_append_perm _ items)
      obtain ⟨hmem, hne⟩ := List.mem_filter.1 ha
      obtain ⟨k', hk', hkey⟩ := hitems a hmem
      rcases List.mem_cons.1 hk' with rfl | hk'
      · simp [hkey] at hne
      · exact ⟨k', hk', hkey⟩

namespace Graph

/-- The tables and the aliases of the graph, by name; each field and each side of a join is of one
of the tables. -/
structure Grouped (g : Graph) (tables : List String) (bindings : List (String × String)) :
    Prop where
  tables_nodup : tables.Nodup
  tables_eq : realTables g = tables.map .ofTable
  aliases_eq : g.tables.filter Node.isAlias = bindings.map fun b => .ofAlias b.1 b.2
  bound : ∀ a t, g.aliases.find? a = some t ↔ (a, t) ∈ bindings
  owned : ∀ n ∈ g.fields, (∃ t ∈ tables, n.table? = some t) ∧ ∃ text, n.id = "field:" ++ text
  joined : ∀ l ∈ realJoins g, ∃ t ∈ tables, ∃ u ∈ tables, l.source = tableId t ∧
    l.target = tableId u

variable {g : Graph} {tables : List String} {bindings : List (String × String)}

/-- Each node is a table, an alias or a field. -/
theorem nodes_perm (g : Graph) :
    (realTables g ++ g.tables.filter Node.isAlias ++ g.fields).Perm g.nodes := by
  have htables : (realTables g ++ g.tables.filter Node.isAlias).Perm g.tables :=
    List.perm_append_comm.trans (List.filter_append_perm Node.isAlias g.tables)
  have hfields : g.fields = g.nodes.filter fun n => !(n.kind == .table) :=
    List.filter_congr fun n _ => by cases n.kind <;> rfl
  rw [hfields]
  exact (htables.append_right _).trans (List.filter_append_perm _ g.nodes)

theorem mem_nodes_of_mem_tables {p : Node → Bool} {n : Node} (h : n ∈ g.tables.filter p) :
    n ∈ g.nodes :=
  (List.mem_filter.1 (List.mem_filter.1 h).1).1

theorem mem_nodes_of_mem_fieldsOf {table n : Node} (h : n ∈ fieldsOf g table) : n ∈ g.nodes :=
  (List.mem_filter.1 (List.mem_filter.1 h).1).1

/-- Each field is the field of one table. -/
theorem Grouped.fields_perm (h : g.Grouped tables bindings) :
    ((realTables g).flatMap (fieldsOf g)).Perm g.fields := by
  rw [h.tables_eq, List.flatMap_map]
  exact perm_flatMap_filter Node.table? h.tables_nodup fun n hn => (h.owned n hn).1

/-- The identifiers of a grouped graph start with the kind of their node. -/
theorem Grouped.isNodeId (h : g.Grouped tables bindings) {n : Node} (hn : n ∈ g.nodes) :
    IsNodeId n.id := by
  have hn := g.nodes_perm.mem_iff.2 hn
  rw [h.tables_eq, h.aliases_eq, List.mem_append, List.mem_append, List.mem_map, List.mem_map] at hn
  rcases hn with (⟨t, -, rfl⟩ | ⟨b, -, rfl⟩) | hn
  · exact isNodeId_tableId t
  · exact isNodeId_tableId b.1
  · obtain ⟨text, htext⟩ := (h.owned n hn).2
    exact htext ▸ isNodeId_field text

/-! ## The graphs of statements -/

theorem grouped_ofSingleField (table field text : String) (isDiagnostic : Bool) :
    (ofSingleField table field text isDiagnostic).Grouped [table] [] where
  tables_nodup := List.nodup_singleton table
  tables_eq := rfl
  aliases_eq := rfl
  bound := by simp [ofSingleField, AliasMap.find?, AliasMap.empty]
  owned := by
    intro n hn
    obtain rfl := List.mem_singleton.1 hn
    exact ⟨⟨table, List.mem_singleton_self table, rfl⟩, field, rfl⟩
  joined := by
    intro l hl
    exact absurd hl List.not_mem_nil

/-- The joins of a drawing are those of the first relations of their tables. -/
theorem exists_relation_of_mem_realJoins {s : Statement} {o : Options} {l : Link}
    (hl : l ∈ realJoins (s.drawnGraph o)) :
    ∃ r ∈ firstsBy Relation.tables (s.plan o).relations, l = r.tableLink := by
  have heq := Plan.filter_links_drawing (wellFormed_plan s o) o
    (fun l => l.kind == .tableJoin && !l.isAliasJoin) (fun _ _ => rfl) (fun _ _ _ => rfl)
  have hmem : l ∈ ((s.plan o).drawing o).links.filter fun l =>
      l.kind == .tableJoin && !l.isAliasJoin := by
    simp only [realJoins, linksOf, List.filter_filter, Bool.and_comm] at hl
    exact hl
  rw [heq, List.mem_append, List.mem_filter, List.mem_filter] at hmem
  rcases hmem with ⟨hl, hkind⟩ | ⟨hl, hkind⟩
  · obtain ⟨b, -, rfl⟩ := List.mem_map.1 hl
    simp [Link.ofAlias] at hkind
  · obtain ⟨r, hr, hl⟩ := List.mem_flatMap.1 hl
    rcases List.mem_cons.1 hl with rfl | hl
    · exact ⟨r, hr, rfl⟩
    · obtain rfl := List.mem_singleton.1 hl
      simp [Relation.fieldLink, Link.ofJoin] at hkind

theorem grouped_drawnGraph (s : Statement) (o : Options) :
    (s.drawnGraph o).Grouped s.catalog.tables s.catalog.aliases where
  tables_nodup := (wellFormed_catalog s).tables_nodup
  tables_eq := by
    rw [realTables, tables, show (s.drawnGraph o).nodes.filter (·.kind == .table) = _ from
      (drawn_statement s o).tables]
    exact (filter_alias_tableNodes s.catalog).1
  aliases_eq := by
    rw [tables, show (s.drawnGraph o).nodes.filter (·.kind == .table) = _ from
      (drawn_statement s o).tables]
    exact (filter_alias_tableNodes s.catalog).2
  bound := fun a t => AliasMap.find?_ofList_iff (wellFormed_catalog s).aliases_nodup a t
  owned := by
    intro n hn
    obtain ⟨hmem, hkind⟩ := List.mem_filter.1 hn
    obtain ⟨table, field, label, hd, rfl⟩ :=
      (drawn_statement s o).fields n hmem (beq_iff_eq.1 hkind)
    exact ⟨⟨table, (wellFormed_plan s o).mem_tables_of_draws hd, rfl⟩, table ++ "." ++ field,
      by simp [Sketch.fieldNode, Node.ofField, fieldId, String.append_assoc]⟩
  joined := by
    intro l hl
    obtain ⟨r, hr, rfl⟩ := exists_relation_of_mem_realJoins hl
    obtain ⟨hleft, hright⟩ := (wellFormed_plan s o).known r ((firstsBy_sublist _ _).subset hr)
    exact ⟨_, hleft.table, _, hright.table, rfl, rfl⟩

/-- The graph of every statement is grouped. -/
theorem exists_grouped_graph (s : Statement) (o : Options) :
    ∃ tables bindings, (s.graph o).Grouped tables bindings := by
  rcases exists_firstBlank_or s.tables with ⟨i, hi⟩ | hnamed
  · rw [Statement.graph, draw_of_firstBlank hi o]
    exact ⟨_, _, grouped_ofSingleField _ _ _ _⟩
  · rw [graph_of_named hnamed o, Statement.namedGraph]
    split
    · exact ⟨_, _, grouped_ofSingleField _ _ _ _⟩
    · exact ⟨_, _, grouped_drawnGraph s o⟩

/-! ## The conditions of joins -/

/-- A relation is written with the names of its tables and fields. -/
theorem condition_of_mem_relationsOf {c : Catalog} {joins : List WrittenJoin} {o : Options}
    {r : Relation} (hr : r ∈ relationsOf c joins o) : r.condition =
      r.left.written ++ "." ++ r.left.field ++ " = " ++
        r.right.written ++ "." ++ r.right.field := by
  have hwritten : ∀ q column, (Relation.endpoint c q column).written = q := by
    intro q column
    by_cases hq : q = c.resolve q
    · simp [Relation.endpoint, Endpoint.written, ← hq]
    · simp [Relation.endpoint, Endpoint.written, hq]
  simp only [relationsOf] at hr
  split at hr
  · obtain ⟨⟨left, right⟩, -, hguess⟩ := List.mem_filterMap.1 hr
    obtain ⟨-, hguess⟩ := Option.ite_none_left_eq_some.1 hguess
    obtain rfl := Option.some.inj hguess
    simp [Relation.guess, Endpoint.written, String.append_assoc]
  · obtain ⟨w, -, rfl⟩ := List.mem_map.1 hr
    simp only [Relation.ofWritten, WrittenJoin.condition, hwritten]
    rfl

/-- The names in a condition are names of the graph: those of a table or an alias and of one of
the fields, on both sides. -/
structure NamesCondition (g : Graph) (condition q field q' field' : String) : Prop where
  written : condition = q ++ "." ++ field ++ " = " ++ q' ++ "." ++ field'
  left : g.has (tableId q) = true
  right : g.has (tableId q') = true
  leftField : ∃ t, g.has (fieldId t field) = true
  rightField : ∃ t, g.has (fieldId t field') = true

theorem exists_namesCondition {s : Statement} {o : Options} {l : Link}
    (hl : l ∈ realJoins (s.graph o)) :
    ∃ condition, l.condition? = some condition ∧
      ∃ q field q' field', (s.graph o).NamesCondition condition q field q' field' := by
  have hnone : ∀ table field text d, l ∉ realJoins (ofSingleField table field text d) :=
    fun _ _ _ _ => List.not_mem_nil
  rcases exists_firstBlank_or s.tables with ⟨i, hi⟩ | hnamed
  · rw [Statement.graph, draw_of_firstBlank hi o] at hl
    exact absurd hl (hnone _ _ _ _)
  · rw [graph_of_named hnamed o, Statement.namedGraph] at hl ⊢
    split at hl
    · exact absurd hl (hnone _ _ _ _)
    · next htables =>
        rw [if_neg htables]
        obtain ⟨r, hr, rfl⟩ := exists_relation_of_mem_realJoins hl
        have hp := wellFormed_plan s o
        have hmem := (firstsBy_sublist _ _).subset hr
        obtain ⟨hleft, hright⟩ := hp.known r hmem
        have hnode : ∀ e : Endpoint, e.Known s.catalog →
            (s.drawnGraph o).has (tableId e.written) = true := by
          intro e he
          obtain ⟨n, hn, hid, -⟩ := (drawn_statement s o).exists_node (Sketch.knows_written he)
          exact (has_iff _ _).2 ⟨n, hn, hid⟩
        obtain ⟨hfield, hfield'⟩ := Plan.has_of_first hp o hr
        exact ⟨_, rfl, _, _, _, _, condition_of_mem_relationsOf hmem, hnode _ hleft, hnode _ hright,
          ⟨_, hfield⟩, ⟨_, hfield'⟩⟩

end Graph

end JoinGraph
