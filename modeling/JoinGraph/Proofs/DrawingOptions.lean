import JoinGraph.Proofs.DrawnAlike
import JoinGraph.Proofs.GuessedJoins

/-!
# What the options of a drawing change

Each of the two options adds to a graph and takes nothing away.  Guesses come behind the links of
a graph that has no joins; before that they only turn fields into join fields.  Joins between
aliases are the last thing that is drawn, and nothing else asks for them.

## Main results

* `graph_infersJoins` — the graph with guesses goes on where the one without them ends.
* `graph_drawsAliasJoins` — the graph without joins between aliases is the one with them, less
  these.
-/

namespace JoinGraph

/-! ## Options and plans -/

/-- Whether a graph tells a fault, is the placeholder or is drawn does not depend on the options. -/
theorem graph_cases (s : Statement) : (∃ message, ∀ o, s.graph o = .diagnostic message) ∨
    (∀ o, s.graph o = .placeholder) ∨ ∀ o, s.graph o = s.drawnGraph o := by
  rcases exists_firstBlank_or s.tables with ⟨i, hi⟩ | hnamed
  · refine .inl ⟨(GraphFault.emptyTableName i).message, fun o => ?_⟩
    rw [Statement.graph, draw_of_firstBlank hi]
  · by_cases htables : s.catalog.tables = []
    · refine .inr (.inl fun o => ?_)
      rw [graph_of_named hnamed, Statement.namedGraph, if_pos htables]
    · refine .inr (.inr fun o => ?_)
      rw [graph_of_named hnamed, Statement.namedGraph, if_neg htables]

/-- Options come into a plan by its relations only. -/
theorem plan_eq_of_relations {s : Statement} {o o' : Options}
    (h : relationsOf s.catalog (completeJoins s.joins) o =
      relationsOf s.catalog (completeJoins s.joins) o') : s.plan o = s.plan o' := by
  have hplan : ∀ o : Options,
      s.plan o = ⟨s.catalog, relationsOf s.catalog (completeJoins s.joins) o,
        FieldSets.merge s.catalog (FieldSets.collect s.catalog
          (ownedColumns s.catalog (completeJoins s.joins) s)),
        fieldLabels s.catalog (relationsOf s.catalog (completeJoins s.joins) o) s, resultNames s⟩ :=
    fun _ => rfl
  rw [hplan, hplan, h]

/-- The same relations and the same second option make the same graph. -/
theorem graph_eq_of_relations {s : Statement} {o o' : Options}
    (h : relationsOf s.catalog (completeJoins s.joins) o =
      relationsOf s.catalog (completeJoins s.joins) o')
    (haliases : o.drawsAliasJoins = o'.drawsAliasJoins) : s.graph o = s.graph o' := by
  rcases graph_cases s with ⟨message, hgraph⟩ | hgraph | hgraph
  · rw [hgraph, hgraph]
  · rw [hgraph, hgraph]
  · rw [hgraph, hgraph, Statement.drawnGraph, Statement.drawnGraph,
      plan_eq_of_relations h, Plan.drawing, Plan.drawing, haliases]

/-- With a complete join, or without two tables to guess a join between, options do not matter. -/
theorem relationsOf_eq_of_settled {c : Catalog} {joins : List WrittenJoin}
    (h : joins ≠ [] ∨ c.tables.length < 2) (o o' : Options) :
    relationsOf c joins o = relationsOf c joins o' := by
  rcases h with hjoins | htables
  · rw [relationsOf_of_ne_nil c hjoins, relationsOf_of_ne_nil c hjoins]
  · have hfew : ¬ 1 < c.tables.length := by omega
    simp [relationsOf, hfew]

/-! ## Guesses -/

namespace Node

/-- The second node is the first one, apart from what it tells of joins. -/
def SameButJoin (n m : Node) : Prop :=
  m = { n with isJoinField? := m.isJoinField?, joinTarget? := m.joinTarget? }

theorem SameButJoin.refl (n : Node) : n.SameButJoin n := rfl

theorem SameButJoin.id_eq {n m : Node} (h : n.SameButJoin m) : n.id = m.id := by
  rw [h]

end Node

/-- Fields with the same label differ by their join targets. -/
theorem sameButJoin_fieldNode {p q : Plan} (hresults : p.results = q.results)
    (table field label : String) :
    (Sketch.fieldNode p table field label).SameButJoin (Sketch.fieldNode q table field label) := by
  rw [Node.SameButJoin, Sketch.fieldNode, Sketch.fieldNode, hresults]
  rfl

/-- A guess labels no field. -/
theorem fieldLabels_guesses {c : Catalog} (h : c.WellFormed) (s : Statement) :
    fieldLabels c (Relation.guesses c) s = fieldLabels c [] s := by
  have hnone : ((Relation.guesses c).flatMap fun r => [r.left, r.right].filterMap Endpoint.label?) =
      [] := by
    rw [guesses_eq h, List.flatMap_eq_nil_iff]
    intro r hr
    obtain ⟨p, -, rfl⟩ := List.mem_map.1 hr
    rfl
  rw [fieldLabels, hnone, fieldLabels, List.flatMap_nil]

section Guessed

variable {s : Statement} {o o' : Options}

/-- Until joins are drawn, the run with guesses is in step with the one without. -/
theorem alike_drawFields_guesses (hnone : completeJoins s.joins = []) (hoff : o.infersJoins = false)
    (hon : o'.infersJoins = true) :
    Sketch.Alike Node.SameButJoin
      ((Sketch.empty.drawTables s.catalog).drawFields (s.plan o))
      ((Sketch.empty.drawTables s.catalog).drawFields (s.plan o')) := by
  have hlabels : (s.plan o).labels = (s.plan o').labels := by
    rw [labels_plan, labels_plan, relations_plan, relations_plan, hnone, relationsOf_nil,
      relationsOf_nil,
      hoff, hon, if_neg Bool.false_ne_true, if_pos rfl, fieldLabels_guesses (wellFormed_catalog s)]
  have hstart := Sketch.Alike.refl Node.SameButJoin.refl (Sketch.empty.drawTables s.catalog)
  refine hstart.drawFields (fun _ _ => Node.SameButJoin.id_eq) rfl fun table field => ?_
  rw [hlabels]
  exact sameButJoin_fieldNode rfl table field _

/-- Without relations, the fields are the last thing that is drawn. -/
theorem joined_of_no_guesses (hnone : completeJoins s.joins = []) (hoff : o.infersJoins = false) :
    (s.plan o).joined = (Sketch.empty.drawTables s.catalog).drawFields (s.plan o) := by
  rw [Plan.joined, relations_plan, hnone, relationsOf_nil, hoff]
  rfl

/-- A link of a join that is a guess. -/
def Link.IsGuess (l : Link) : Prop :=
  (l.kind = .tableJoin ∨ l.kind = .fieldJoin) ∧ l.confidence? = some .inferred

/-- Guesses only add: their own links, and fields with their links. -/
theorem extends_joined_guesses (hnone : completeJoins s.joins = []) :
    Sketch.Extends Link.IsGuess ((Sketch.empty.drawTables s.catalog).drawFields (s.plan o))
      (s.plan o).joined := by
  refine Sketch.extends_drawJoins (s.plan o) _ (fun r hr => ?_) _
  have hguess := confidence_of_mem_relationsOf (wellFormed_catalog s)
    ((firstsBy_sublist _ _).subset hr)
  rw [if_pos hnone] at hguess
  exact ⟨⟨.inl rfl, congrArg some hguess⟩, ⟨.inr rfl, congrArg some hguess⟩⟩

/-- Without a complete join, the links before joins between aliases are all that there are. -/
theorem links_drawing_of_none (hnone : completeJoins s.joins = []) (o : Options) :
    ((s.plan o).drawing o).links = (s.plan o).joined.links := by
  rw [Plan.links_drawing (wellFormed_plan s o), aliasLinks_plan, aliasJoins_of_none hnone]
  simp

/-- In a drawing without relations, no node tells of a join. -/
theorem joinTarget?_drawing_of_none (hnone : completeJoins s.joins = [])
    (hoff : o.infersJoins = false) {n : Node} (hn : n ∈ ((s.plan o).drawing o).nodes) :
    n.isJoinField = false ∧ n.joinTarget? = none := by
  have hdrawn := drawn_statement s o
  cases hkind : n.kind with
  | table =>
      have hmem : n ∈ Sketch.tableNodes (s.plan o).catalog :=
        hdrawn.tables ▸ List.mem_filter.2 ⟨hn, by simp [hkind]⟩
      rcases List.mem_append.1 hmem with hmem | hmem <;>
        obtain ⟨_, -, rfl⟩ := List.mem_map.1 hmem <;> exact ⟨rfl, rfl⟩
  | field =>
      obtain ⟨table, field, label, -, rfl⟩ := hdrawn.fields n hn hkind
      have hnothing : joinTarget? (s.plan o).relations table field = none := by
        rw [relations_plan, hnone, relationsOf_nil, hoff]
        rfl
      exact ⟨congrArg Option.isSome hnothing, hnothing⟩

end Guessed

/-- Guessing joins only adds.  If a join is complete, if there are less than two tables, or if one
has a blank name, the graph is the same with and without guesses.  Otherwise the graph without
guesses comes first in the one with them: its links as they are, and its nodes with no more
changed than that some of them, of which none was a join field, are join fields and have targets.
Every further link is one of a guess, or the link of a further field. -/
theorem graph_infersJoins (s : Statement) (o o' : Options) (hoff : o.infersJoins = false)
    (hon : o'.infersJoins = true) (haliases : o.drawsAliasJoins = o'.drawsAliasJoins) :
    let g := s.graph o
    let g' := s.graph o'
    (((∃ j ∈ s.joins, j.IsComplete) ∨ s.catalog.tables.length < 2 ∨
        ∃ t ∈ s.tables, Text.trim t.name = "") → g = g') ∧
      ((∀ j ∈ s.joins, ¬ j.IsComplete) → 2 ≤ s.catalog.tables.length →
        (∀ t ∈ s.tables, Text.trim t.name ≠ "") →
        g.aliases = g'.aliases ∧ g.isDiagnostic = g'.isDiagnostic ∧
        (∀ n ∈ g.nodes, n.isJoinField = false ∧ n.joinTarget? = none) ∧
        ∃ kept added links, g'.nodes = kept ++ added ∧ g'.links = g.links ++ links ∧
          List.Forall₂ (fun n n' => n' =
            { n with isJoinField? := n'.isJoinField?, joinTarget? := n'.joinTarget? })
              g.nodes kept ∧
          (∀ n ∈ added, n.kind = .field) ∧
          ∀ l ∈ links, ((l.kind = .tableJoin ∨ l.kind = .fieldJoin) ∧
            l.confidence? = some .inferred) ∨ ∃ n ∈ added, l = n.ownerLink) := by
  refine ⟨fun hsettled => ?_, fun hincomplete htables hnamed => ?_⟩
  · rcases hsettled with hcomplete | hfew | ⟨t, ht, hblank⟩
    · obtain ⟨w, hw⟩ := (exists_mem_completeJoins_iff s.joins).2 hcomplete
      exact graph_eq_of_relations
        (relationsOf_eq_of_settled (.inl (List.ne_nil_of_mem hw)) o o') haliases
    · exact graph_eq_of_relations (relationsOf_eq_of_settled (.inr hfew) o o') haliases
    · rcases exists_firstBlank_or s.tables with ⟨i, hi⟩ | hnamed
      · rw [Statement.graph, Statement.graph, draw_of_firstBlank hi, draw_of_firstBlank hi]
      · exact absurd hblank (hnamed t ht)
  · have hnone : completeJoins s.joins = [] := by
      refine List.eq_nil_iff_forall_not_mem.2 fun w hw => ?_
      obtain ⟨j, hj, hcomplete⟩ := (exists_mem_completeJoins_iff s.joins).1 ⟨w, hw⟩
      exact hincomplete j hj hcomplete
    have hne : s.catalog.tables ≠ [] := List.ne_nil_of_length_pos (by omega)
    have hgraph : ∀ o : Options, s.graph o = s.drawnGraph o := fun o => by
      rw [graph_of_named hnamed, Statement.namedGraph, if_neg hne]
    have hnodes : ∀ o : Options, (s.graph o).nodes = (s.plan o).joined.nodes := fun o => by
      rw [hgraph]
      exact Plan.nodes_drawing (wellFormed_plan s o) o
    have hlinks : ∀ o : Options, (s.graph o).links = (s.plan o).joined.links := fun o => by
      rw [hgraph]
      exact links_drawing_of_none hnone o
    have halike := alike_drawFields_guesses hnone hoff hon
    rw [← joined_of_no_guesses hnone hoff] at halike
    obtain ⟨added, links, haddedNodes, haddedLinks, hfields, hall⟩ :=
      extends_joined_guesses (o := o') hnone
    refine ⟨by rw [hgraph, hgraph]; rfl, by rw [hgraph, hgraph]; rfl,
      fun n hn => ?_, _, added, links, (hnodes o').trans haddedNodes, ?_, ?_, hfields, hall⟩
    · rw [hgraph] at hn
      exact joinTarget?_drawing_of_none hnone hoff hn
    · rw [hlinks, hlinks, haddedLinks, halike.links]
    · rw [hnodes]
      exact halike.nodes

/-- Two tables in a row, and a projected column that a guess makes a join field. -/
def keyedTables : Statement :=
  ⟨[⟨"users", some "u"⟩, ⟨"orders", none⟩], [], [⟨some "u", "id", none⟩], none⟩

/-- A guess adds two joins and the link of a further field behind the links of two tables, and
nothing to one table. -/
theorem graph_infersJoins_keyed :
    let off : Options := ⟨some false, none⟩
    let single : Statement := ⟨[⟨"users", some "u"⟩], [], [], none⟩
    (off.infersJoins = false ∧ Options.default.infersJoins = true ∧
        off.drawsAliasJoins = Options.default.drawsAliasJoins) ∧
      ((∀ j ∈ keyedTables.joins, ¬ j.IsComplete) ∧ 2 ≤ keyedTables.catalog.tables.length ∧
        (∀ t ∈ keyedTables.tables, Text.trim t.name ≠ "") ∧
        (keyedTables.graph .default).links = (keyedTables.graph off).links ++
          [.ofJoin .tableJoin "table:users" "table:orders" "users.id = orders.users_id" .inferred,
            .ofField "orders" "users_id",
            .ofJoin .fieldJoin "field:users.id" "field:orders.users_id" "users.id = orders.users_id"
              .inferred]) ∧
      single.catalog.tables.length < 2 ∧ single.graph off = single.graph .default := by
  intro off single
  have hnone : ∀ j ∈ keyedTables.joins, ¬ j.IsComplete := by simp [keyedTables]
  have htables : 2 ≤ keyedTables.catalog.tables.length := by decide +kernel
  have hnamed : ∀ t ∈ keyedTables.tables, Text.trim t.name ≠ "" := by decide
  have hsingle : single.catalog.tables.length < 2 := by decide +kernel
  obtain ⟨-, hadds⟩ := graph_infersJoins keyedTables off .default rfl rfl rfl
  obtain ⟨-, -, -, kept, added, links, -, hlinks, -⟩ := hadds hnone htables hnamed
  have hmore :
      links = (keyedTables.graph .default).links.drop (keyedTables.graph off).links.length := by
    rw [hlinks, List.drop_left]
  exact ⟨⟨rfl, rfl, rfl⟩, ⟨hnone, htables, hnamed, hlinks.trans (by rw [hmore]; decide +kernel)⟩,
    hsingle, (graph_infersJoins single off .default rfl rfl rfl).1 (.inr (.inl hsingle))⟩

/-! ## Joins between aliases -/

/-- The relations depend on one of the two options. -/
theorem relationsOf_eq_of_infersJoins (c : Catalog) (joins : List WrittenJoin) {o o' : Options}
    (h : o.infersJoins = o'.infersJoins) : relationsOf c joins o = relationsOf c joins o' := by
  rw [relationsOf, relationsOf, h]

/-- What is drawn of a statement with tables is never the placeholder: every identifier of a field
tells its table. -/
theorem drawnGraph_ne_placeholder (s : Statement) (o : Options) :
    s.drawnGraph o ≠ .placeholder := by
  intro h
  obtain ⟨n, hn, hkind, hid⟩ : ∃ n ∈ (s.drawnGraph o).nodes, n.kind = .field ∧
      n.id = "field:data" := by
    rw [h]
    exact ⟨_, List.mem_cons_of_mem _ (List.mem_singleton_self _), rfl, rfl⟩
  obtain ⟨table, field, label, -, rfl⟩ := (drawn_statement s o).fields n hn hkind
  have hdot : '.' ∈ (fieldId table field).toList := by simp [fieldId]
  have hid : fieldId table field = "field:data" := hid
  rw [hid] at hdot
  exact absurd hdot (by decide)

/-- Drawing with joins between aliases adds these at the end of the links. -/
theorem drawnGraph_drawsAliasJoins (s : Statement) {o o' : Options}
    (hoff : o.drawsAliasJoins = false) (hinfers : o.infersJoins = o'.infersJoins) :
    s.drawnGraph o = { s.drawnGraph o' with
        links := (s.drawnGraph o').links.filter fun l => !l.isAliasJoin } ∧
      (s.drawnGraph o').links =
        (s.drawnGraph o).links ++ (s.drawnGraph o').links.filter Link.isAliasJoin := by
  have hp := wellFormed_plan s o'
  have hplan : s.plan o = s.plan o' :=
    plan_eq_of_relations (relationsOf_eq_of_infersJoins _ _ hinfers)
  have hbefore : ((s.plan o').drawing o).links = (s.plan o').joined.links := by
    rw [Plan.links_drawing hp, hoff]
    exact List.append_nil _
  have hbehind : ((s.plan o').drawing o').links = (s.plan o').joined.links ++
      ((s.plan o').drawing o').links.filter Link.isAliasJoin := by
    rw [Plan.filter_isAliasJoin_drawing hp, Plan.links_drawing hp]
  have hplain : (s.plan o').joined.links.filter (fun l => !l.isAliasJoin) =
      (s.plan o').joined.links := by
    have hnone := Plan.filter_isAliasJoin_drawing hp o
    rw [hbefore, hoff] at hnone
    exact List.filter_eq_self.2 fun l hl => by
      simpa using List.filter_eq_nil_iff.1 hnone l hl
  have hkept : ((s.plan o').drawing o').links.filter (fun l => !l.isAliasJoin) =
      (s.plan o').joined.links := by
    rw [hbehind, List.filter_append, hplain, List.filter_filter]
    simp
  have hnodes : ((s.plan o').drawing o).nodes = ((s.plan o').drawing o').nodes := by
    rw [Plan.nodes_drawing hp, Plan.nodes_drawing hp]
  rw [Statement.drawnGraph, Statement.drawnGraph, hplan]
  constructor
  · rw [Sketch.graph, Sketch.graph, hnodes, hbefore, hkept]
  · rw [Sketch.graph, Sketch.graph, hbefore]
    exact hbehind

/-- Joins between aliases are all that their option decides.  Without it the graph is the one with
it, less the links that are flagged, which come last there.  So the option makes no graph a
diagnostic one or a placeholder, and none of these the graph of something. -/
theorem graph_drawsAliasJoins (s : Statement) (o o' : Options) (hoff : o.drawsAliasJoins = false)
    (hinfers : o.infersJoins = o'.infersJoins) :
    let g := s.graph o
    let g' := s.graph o'
    g = { g' with links := g'.links.filter fun l => !l.isAliasJoin } ∧
      g'.links = g.links ++ g'.links.filter Link.isAliasJoin ∧
      g.isDiagnostic = g'.isDiagnostic ∧ g.isPlaceholder = g'.isPlaceholder ∧
      (g = .placeholder ↔ g' = .placeholder) := by
  intro g g'
  rcases graph_cases s with ⟨message, hgraph⟩ | hgraph | hgraph
  · rw [show g = _ from hgraph o, show g' = _ from hgraph o']
    exact ⟨rfl, rfl, rfl, rfl, Iff.rfl⟩
  · rw [show g = _ from hgraph o, show g' = _ from hgraph o']
    exact ⟨rfl, rfl, rfl, rfl, Iff.rfl⟩
  · obtain ⟨hless, hlast⟩ := drawnGraph_drawsAliasJoins s hoff hinfers
    rw [show g = _ from hgraph o, show g' = _ from hgraph o']
    refine ⟨hless, hlast, rfl, ?_, ?_⟩
    · rw [hless]
      rfl
    · exact iff_of_false (drawnGraph_ne_placeholder s o) (drawnGraph_ne_placeholder s o')

/-- Two joins to one table under two aliases. -/
def renamedTable : Statement where
  tables := [⟨"users", some "u"⟩, ⟨"orders", some "a"⟩, ⟨"orders", some "b"⟩]
  joins :=
    [⟨"orders", some "a", some ⟨some "u", "id"⟩, some ⟨some "a", "buyer"⟩⟩,
      ⟨"orders", some "b", some ⟨some "a", "id"⟩, some ⟨some "b", "parent"⟩⟩]
  projected := []
  condition := none

/-- Both joins between aliases go with the option, and the joins between tables stay. -/
theorem graph_drawsAliasJoins_renamed :
    let off : Options := ⟨none, some false⟩
    off.drawsAliasJoins = false ∧ off.infersJoins = Options.default.infersJoins ∧
      (renamedTable.graph .default).links = (renamedTable.graph off).links ++
        [.ofAliasJoin "table:u" "table:a" "u.id = a.buyer",
          .ofAliasJoin "table:a" "table:b" "a.id = b.parent"] ∧
      ((renamedTable.graph off).linksOf .tableJoin).map Link.condition? =
        [some "u.id = a.buyer", some "a.id = b.parent"] := by
  intro off
  obtain ⟨-, hlast, -⟩ := graph_drawsAliasJoins renamedTable off .default rfl rfl
  exact ⟨rfl, rfl, hlast.trans (by decide +kernel), by decide +kernel⟩

end JoinGraph
