import JoinGraph.Proofs.Outcome

/-!
# The tables and aliases of a graph

The tables of a graph are those the statement lists, then those that only its complete joins name.
An alias is bound to the first table that declares it, unless it is the name of a listed table,
and a qualifier that is bound never becomes a table.  So tables and aliases have different names,
and an alias leads to a table in one step.

## Main results

* `mem_aliases_catalog_iff` — which aliases are bound, and to which table.
* `tables_graph` — the nodes of tables and aliases, the links of aliases, and the map of the graph.
-/

namespace JoinGraph

/-! ## Bound aliases -/

/-- The entry declares the name as an alias. -/
def TableRef.Declares (e : TableRef) (name : String) : Prop :=
  e.alias?.map Text.trim = some name

namespace Statement

/-- The names of the listed tables. -/
def tableNames (s : Statement) : List String := s.tables.map fun e => Text.trim e.name

/-- The name is an alias of the table: it is not empty and not listed as a table itself, and the
first entry that declares it is of this table. -/
structure Binds (s : Statement) (name table : String) : Prop where
  not_empty : name ≠ ""
  not_table : name ∉ s.tableNames
  first : ∃ before e after, s.tables = before ++ e :: after ∧ e.Declares name ∧
    Text.trim e.name = table ∧ ∀ e' ∈ before, ¬ e'.Declares name

end Statement

private theorem declaration?_eq_some_iff (e : TableRef) (a t : String) :
    Catalog.declaration? e = some (a, t) ↔ e.Declares a ∧ Text.trim e.name = t := by
  simp only [Catalog.declaration?, TableRef.Declares, Option.map_eq_some_iff, Prod.mk.injEq]
  constructor
  · rintro ⟨b, hb, rfl, rfl⟩
    exact ⟨⟨b, hb, rfl⟩, rfl⟩
  · rintro ⟨⟨b, hb, rfl⟩, rfl⟩
    exact ⟨b, hb, rfl, rfl⟩

/-- A declaration is the first of its alias exactly if its entry is the first that declares it. -/
private theorem mem_first_declarations_iff (entries : List TableRef) (a t : String) :
    (a, t) ∈ firstsBy Prod.fst (entries.filterMap Catalog.declaration?) ↔
      ∃ before e after, entries = before ++ e :: after ∧ e.Declares a ∧ Text.trim e.name = t ∧
        ∀ e' ∈ before, ¬ e'.Declares a := by
  rw [mem_firstsBy_iff]
  constructor
  · rintro ⟨before, after, hsplit, hfirst⟩
    obtain ⟨l, l', rfl, rfl, hrest⟩ := List.filterMap_eq_append_iff.1 hsplit
    obtain ⟨m, e, l'', rfl, hnone, he, -⟩ := List.filterMap_eq_cons_iff.1 hrest
    obtain ⟨hdeclares, hname⟩ := (declaration?_eq_some_iff e a t).1 he
    refine ⟨l ++ m, e, l'', by simp, hdeclares, hname, fun e' he' hdeclares' => ?_⟩
    have hsome := (declaration?_eq_some_iff e' a _).2 ⟨hdeclares', rfl⟩
    rcases List.mem_append.1 he' with he' | he'
    · exact hfirst _ (List.mem_filterMap.2 ⟨e', he', hsome⟩) rfl
    · rw [hnone e' he'] at hsome
      cases hsome
  · rintro ⟨before, e, after, rfl, hdeclares, hname, hfirst⟩
    refine ⟨before.filterMap Catalog.declaration?, after.filterMap Catalog.declaration?, ?_, ?_⟩
    · rw [List.filterMap_append,
        List.filterMap_cons_some ((declaration?_eq_some_iff e a t).2 ⟨hdeclares, hname⟩)]
    · rintro ⟨a', t'⟩ hb rfl
      obtain ⟨e', he', hsome⟩ := List.mem_filterMap.1 hb
      exact hfirst e' he' ((declaration?_eq_some_iff e' _ t').1 hsome).1

/-- Joins bind no alias. -/
private theorem aliases_catalog (s : Statement) :
    s.catalog.aliases = (Catalog.ofEntries s.tables).aliases := by
  rw [Statement.catalog, Catalog.withJoined_eq]

/-- The bound aliases, each with the table it stands for. -/
theorem mem_aliases_catalog_iff (s : Statement) (a t : String) :
    (a, t) ∈ s.catalog.aliases ↔ s.Binds a t := by
  rw [aliases_catalog, Catalog.aliases_ofEntries, List.mem_filter, mem_first_declarations_iff,
    Catalog.isFree_named_iff]
  constructor
  · rintro ⟨hfirst, hne, hnot⟩
    refine ⟨hne, fun hmem => ?_, hfirst⟩
    obtain ⟨e, he, heq⟩ := List.mem_map.1 hmem
    exact hnot e he heq
  · rintro ⟨hne, hnot, hfirst⟩
    exact ⟨hfirst, hne, fun e he heq => hnot (List.mem_map.2 ⟨e, he, heq⟩)⟩

/-! ## The order of tables -/

/-- The tables of a statement, in order: the listed ones, then the qualifiers of complete joins that
are neither listed nor bound. -/
theorem tables_catalog (s : Statement) : s.catalog.tables = firstsBy id s.tableNames ++
    firstsBy id ((Catalog.qualifiers (completeJoins s.joins)).filter fun q =>
      decide (q ∉ s.tableNames) && decide (q ∉ s.catalog.aliases.map (·.1))) := by
  have hunknown : (Catalog.ofEntries s.tables).isUnknown = fun q =>
      decide (q ∉ s.tableNames) && decide (q ∉ s.catalog.aliases.map (·.1)) := by
    funext q
    have htable : (Catalog.ofEntries s.tables).isTable q = decide (q ∈ s.tableNames) := by
      rw [Bool.eq_iff_iff, Catalog.isTable_iff, Catalog.mem_tables_ofEntries, decide_eq_true_eq,
        Statement.tableNames, List.mem_map]
    have halias : (Catalog.ofEntries s.tables).isAlias q =
        decide (q ∈ s.catalog.aliases.map (·.1)) := by
      rw [Bool.eq_iff_iff, Catalog.isAlias_iff, aliases_catalog, decide_eq_true_eq]
      simp
    simp only [Catalog.isUnknown, htable, halias, decide_not, Bool.not_or]
  have htables : s.catalog.tables = (Catalog.ofEntries s.tables).tables ++
      firstsBy id ((Catalog.qualifiers (completeJoins s.joins)).filter
        (Catalog.ofEntries s.tables).isUnknown) := by
    rw [Statement.catalog, Catalog.withJoined_eq]
  rw [htables, hunknown, Catalog.tables_ofEntries]
  rfl

/-! ## Nodes and links -/

/-- The nodes of a drawing that are no fields are the tables and then the aliases. -/
theorem tables_namedGraph {s : Statement} (h : s.NamesTable) (o : Options) :
    (s.namedGraph o).tables = Sketch.tableNodes s.catalog := by
  rw [Statement.namedGraph, if_neg ((tables_catalog_ne_nil_iff s).2 h)]
  exact (drawn_statement s o).tables

theorem aliasLinks_namedGraph {s : Statement} (h : s.NamesTable) (o : Options) :
    (s.namedGraph o).linksOf .aliasTable = s.catalog.aliases.map fun b => .ofAlias b.1 b.2 := by
  have hnone : ((firstsBy Relation.tables (s.plan o).relations).flatMap fun r =>
      [r.tableLink, r.fieldLink]).filter (·.kind == .aliasTable) = [] := by
    refine List.filter_eq_nil_iff.2 fun l hl => ?_
    obtain ⟨r, -, hl⟩ := List.mem_flatMap.1 hl
    simp only [List.mem_cons, List.not_mem_nil, or_false] at hl
    rcases hl with rfl | rfl <;> simp [Relation.tableLink, Relation.fieldLink, Link.ofJoin]
  have hall : (s.catalog.aliases.map fun b => Link.ofAlias b.1 b.2).filter (·.kind == .aliasTable) =
      s.catalog.aliases.map fun b => .ofAlias b.1 b.2 := by
    refine List.filter_eq_self.2 fun l hl => ?_
    obtain ⟨b, -, rfl⟩ := List.mem_map.1 hl
    rfl
  rw [Statement.namedGraph, if_neg ((tables_catalog_ne_nil_iff s).2 h), Statement.drawnGraph,
    Sketch.graph, Graph.linksOf, Plan.filter_links_drawing (wellFormed_plan s o) o _
      (fun _ _ => rfl) (fun _ _ _ => rfl), hnone, List.append_nil]
  exact hall

/-- The map of a graph with tables holds just the bound aliases. -/
theorem find?_aliases_namedGraph {s : Statement} (h : s.NamesTable) (o : Options) (a t : String) :
    (s.namedGraph o).aliases.find? a = some t ↔ (a, t) ∈ s.catalog.aliases := by
  have hmap : (s.namedGraph o).aliases = .ofList s.catalog.aliases := by
    rw [Statement.namedGraph, if_neg ((tables_catalog_ne_nil_iff s).2 h)]
    rfl
  rw [hmap, AliasMap.find?_ofList_iff (wellFormed_catalog s).aliases_nodup]

/-- The nodes of tables come before those of aliases. -/
theorem filter_alias_tableNodes (c : Catalog) :
    ((Sketch.tableNodes c).filter fun n => !n.isAlias) = c.tables.map .ofTable ∧
      ((Sketch.tableNodes c).filter fun n => n.isAlias) =
        c.aliases.map fun b => .ofAlias b.1 b.2 := by
  have htable : ∀ n ∈ c.tables.map Node.ofTable, n.isAlias = false := by
    intro n hn
    obtain ⟨name, -, rfl⟩ := List.mem_map.1 hn
    rfl
  have halias : ∀ n ∈ c.aliases.map fun b => Node.ofAlias b.1 b.2, n.isAlias = true := by
    intro n hn
    obtain ⟨b, -, rfl⟩ := List.mem_map.1 hn
    rfl
  rw [Sketch.tableNodes, List.filter_append, List.filter_append,
    List.filter_eq_self.2 (by simpa using htable), List.filter_eq_nil_iff.2 (by simpa using halias),
    List.filter_eq_nil_iff.2 (by simpa using htable), List.filter_eq_self.2 halias]
  exact ⟨List.append_nil _, List.nil_append _⟩

/-- If the statement names a table, the tables of its graph are, in order and once each, those it
lists and then the qualifiers of complete joins that are neither listed nor aliases.  Each alias
has one node and one link, and the map of the graph holds the aliases and nothing else.  No alias
has the name of a table of the graph, and all of them stand for such tables. -/
theorem tables_graph (s : Statement) (o : Options)
    (hnamed : ∀ t ∈ s.tables, Text.trim t.name ≠ "") (hsome : s.NamesTable) :
    let g := s.graph o
    let aliases := s.catalog.aliases
    let tables := firstsBy id s.tableNames ++
      firstsBy id ((Catalog.qualifiers (completeJoins s.joins)).filter fun q =>
        decide (q ∉ s.tableNames) && decide (q ∉ aliases.map (·.1)))
    (g.tables.filter fun n => !n.isAlias) = tables.map .ofTable ∧ tables.Nodup ∧
      (g.tables.filter fun n => n.isAlias) = (aliases.map fun b => .ofAlias b.1 b.2) ∧
      g.linksOf .aliasTable = (aliases.map fun b => .ofAlias b.1 b.2) ∧
      (aliases.map (·.1)).Nodup ∧ (∀ a t, (a, t) ∈ aliases ↔ s.Binds a t) ∧
      (∀ a t, g.aliases.find? a = some t ↔ s.Binds a t) ∧
      ∀ a t, s.Binds a t → a ∉ tables ∧ t ∈ tables := by
  have hwf := wellFormed_catalog s
  have hbinds := mem_aliases_catalog_iff s
  obtain ⟨hreal, halias⟩ := filter_alias_tableNodes s.catalog
  simp only [graph_of_named hnamed, ← tables_catalog s, tables_namedGraph hsome]
  exact ⟨hreal, hwf.tables_nodup, halias, aliasLinks_namedGraph hsome o, hwf.aliases_nodup, hbinds,
    fun a t => (find?_aliases_namedGraph hsome o a t).trans (hbinds a t),
    fun a t h => ⟨hwf.disjoint _ ((hbinds a t).2 h), hwf.targets _ ((hbinds a t).2 h)⟩⟩

/-- Aliases that clash with tables, with each other and with the blank text, and joins that name
an alias, a table that is not listed, and a listed one. -/
def clashingAliases : Statement where
  tables := [⟨"users ", some " u"⟩, ⟨"orders", some "users"⟩, ⟨"users", some "o"⟩,
    ⟨"items", some "u"⟩, ⟨"orders", some " "⟩]
  joins := [⟨"items", none, some ⟨some "u", "id"⟩, some ⟨some "owners", "user"⟩⟩,
    ⟨"items", none, some ⟨some "owners", "id"⟩, some ⟨some "items", "owner"⟩⟩]
  projected := []
  condition := none

/-- Two aliases are bound, and one table is added to the listed ones. -/
theorem tables_graph_clashing :
    (∀ t ∈ clashingAliases.tables, Text.trim t.name ≠ "") ∧ clashingAliases.NamesTable ∧
      ((clashingAliases.graph .default).tables.filter fun n => !n.isAlias) =
        ["users", "orders", "items", "owners"].map .ofTable ∧
      ((clashingAliases.graph .default).tables.filter fun n => n.isAlias) =
        [.ofAlias "u" "users", .ofAlias "o" "users"] ∧
      clashingAliases.Binds "u" "users" := by
  have hnamed : ∀ t ∈ clashingAliases.tables, Text.trim t.name ≠ "" := by decide
  have hsome : clashingAliases.NamesTable := .inl (by decide)
  have haliases : clashingAliases.catalog.aliases = [("u", "users"), ("o", "users")] := by
    decide +kernel
  obtain ⟨htables, -, hnodes, -, -, hbinds, -⟩ := tables_graph clashingAliases .default hnamed hsome
  rw [haliases] at htables hnodes
  exact ⟨hnamed, hsome, htables.trans (by decide +kernel), hnodes,
    (hbinds "u" "users").1 (by simp [haliases])⟩

end JoinGraph
