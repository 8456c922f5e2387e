import JoinGraph.Proofs.Drawing

/-!
# The outcome of drawing a statement

There are three outcomes: the graph of the statement, the placeholder if it names no table, and the
diagnostic graph if a table has no name.  No other fault is possible, and all three graphs are well
built.

## Main results

* `draw_of_named` — what is drawn when all tables have names.
* `draw_fails_iff_blank_name` — drawing fails exactly for a table without a name, and tells the
  first.
* `wellBuilt_graph` — the graph of every statement is well built.
-/

namespace JoinGraph

/-! ## Sketches as graphs -/

/-- The graph of a finished sketch. -/
def Sketch.graph (s : Sketch) (c : Catalog) : Graph := ⟨s.nodes, s.links, false, .ofList c.aliases⟩

/-- The invariant of drawing makes a well-built graph. -/
theorem Sketch.Drawn.wellBuilt {p : Plan} {s : Sketch} (h : Drawn p s) (hp : p.WellFormed) :
    (s.graph p.catalog).WellBuilt where
  ids_nodup := h.ids_nodup
  links_fit := h.fit
  fields_owned := by
    intro n hn hkind
    obtain ⟨table, field, label, hd, rfl⟩ := h.fields n hn hkind
    have htable := hp.mem_tables_of_draws hd
    exact ⟨table, rfl, ⟨_, fieldLinks_of_owned h.ids_nodup h.owned hn hkind, rfl⟩,
      ⟨_, h.mem_of_table htable, rfl, rfl, rfl⟩, hp.catalog.find?_table htable⟩

/-- Nothing is drawn only if there is no table. -/
theorem Sketch.Drawn.nodes_eq_nil_iff {p : Plan} {s : Sketch} (h : Drawn p s) (hp : p.WellFormed) :
    s.nodes = [] ↔ p.catalog.tables = [] := by
  constructor
  · intro hnil
    rw [List.eq_nil_iff_forall_not_mem]
    intro t ht
    simpa [hnil] using h.mem_of_table ht
  · intro hnil
    rw [List.eq_nil_iff_forall_not_mem]
    intro n hn
    cases hkind : n.kind with
    | table =>
        have hmem : n ∈ tableNodes p.catalog :=
          h.tables ▸ List.mem_filter.2 ⟨hn, by simp [hkind]⟩
        have haliases : p.catalog.aliases = [] := by
          rw [List.eq_nil_iff_forall_not_mem]
          intro b hb
          simpa [hnil] using hp.catalog.targets b hb
        simp [tableNodes, hnil, haliases] at hmem
    | field =>
        obtain ⟨table, field, label, hd, -⟩ := h.fields n hn hkind
        simpa [hnil] using hp.mem_tables_of_draws hd

/-- The two graphs that stand for something else are well built, too. -/
theorem wellBuilt_ofSingleField (table field text : String) (isDiagnostic : Bool) :
    (Graph.ofSingleField table field text isDiagnostic).WellBuilt where
  ids_nodup := by
    have hne : tableId table ≠ "field:" ++ field := by
      intro h
      have hchars := congrArg String.toList h
      simp [tableId] at hchars
    simpa [Graph.ofSingleField, Node.ofTable] using hne
  links_fit := by
    intro l hl
    obtain rfl := List.mem_singleton.1 hl
    exact ⟨_, List.mem_cons_of_mem _ List.mem_cons_self, _, List.mem_cons_self, rfl, rfl, rfl, rfl⟩
  fields_owned := by
    intro n hn hkind
    rcases List.mem_cons.1 hn with rfl | hn
    · simp [Node.ofTable] at hkind
    · obtain rfl := List.mem_singleton.1 hn
      refine ⟨table, rfl, ⟨_, List.filter_cons_of_pos ?_, rfl⟩,
        ⟨_, List.mem_cons_self, rfl, rfl, rfl⟩, rfl⟩
      simp [Link.ofField]

/-! ## Statements -/

/-- The graph that is drawn of a statement with tables. -/
def Statement.drawnGraph (s : Statement) (o : Options) : Graph :=
  ((s.plan o).drawing o).graph s.catalog

/-- The graph of a statement in which every table has a name. -/
def Statement.namedGraph (s : Statement) (o : Options) : Graph :=
  if s.catalog.tables = [] then .placeholder else s.drawnGraph o

/-- What drawing keeps holds of the drawing of every statement. -/
theorem drawn_statement (s : Statement) (o : Options) :
    Sketch.Drawn (s.plan o) ((s.plan o).drawing o) :=
  Plan.drawn_drawing (wellFormed_plan s o) o

theorem wellBuilt_namedGraph (s : Statement) (o : Options) : (s.namedGraph o).WellBuilt := by
  unfold Statement.namedGraph
  split
  · exact wellBuilt_ofSingleField _ _ _ _
  · exact (drawn_statement s o).wellBuilt (wellFormed_plan s o)

theorem isDiagnostic_namedGraph (s : Statement) (o : Options) :
    (s.namedGraph o).isDiagnostic = false := by
  unfold Statement.namedGraph
  split <;> rfl

/-- Drawing succeeds when every table has a name. -/
theorem draw_of_named {s : Statement} (h : ∀ t ∈ s.tables, Text.trim t.name ≠ "") (o : Options) :
    s.draw o = .ok (s.namedGraph o) := by
  have hp := wellFormed_plan s o
  have hdrawn := drawn_statement s o
  have hnil := hdrawn.nodes_eq_nil_iff hp
  have hcheck : Graph.check ⟨((s.plan o).drawing o).nodes, ((s.plan o).drawing o).links, false,
      AliasMap.ofList (s.plan o).catalog.aliases⟩ = .ok () := (hdrawn.wellBuilt hp).check
  have hsketch : (Plan.ofStatement (Catalog.ofEntries s.tables) s o).sketch o =
      .ok ((s.plan o).drawing o) := Plan.sketch_eq hp o
  rw [Statement.draw, Catalog.ofTables_of_named s.tables h]
  simp only [bind, Except.bind, pure, Except.pure, hsketch]
  by_cases hempty : s.catalog.tables = []
  · simp [Statement.namedGraph, hempty, hnil.2 hempty]
  · have hnodes : ((s.plan o).drawing o).nodes ≠ [] := fun hn => hempty (hnil.1 hn)
    simp only [Statement.namedGraph, hempty, if_false, List.isEmpty_iff, hnodes]
    rw [show Plan.ofStatement (Catalog.ofEntries s.tables) s o = s.plan o from rfl, hcheck]
    rfl

theorem graph_of_named {s : Statement} (h : ∀ t ∈ s.tables, Text.trim t.name ≠ "") (o : Options) :
    s.graph o = s.namedGraph o := by
  rw [Statement.graph, draw_of_named h]

/-- The entry at the position has no name, and all entries before it have one. -/
def FirstBlank (entries : List TableRef) (position : Nat) : Prop :=
  ∃ h : position < entries.length, Text.trim entries[position].name = "" ∧
    ∀ j, ∀ hj : j < position, Text.trim entries[j].name ≠ ""

theorem blankPosition?_eq_some_iff (entries : List TableRef) (i : Nat) :
    Catalog.blankPosition? entries = some i ↔ FirstBlank entries i := by
  simp only [Catalog.blankPosition?, List.findIdx?_eq_some_iff_getElem, FirstBlank,
    ← Text.trim_eq_empty_iff, ne_eq]

theorem draw_of_firstBlank {s : Statement} {i : Nat} (h : FirstBlank s.tables i) (o : Options) :
    s.draw o = .error (.emptyTableName i) := by
  rw [Statement.draw, Catalog.ofTables, (blankPosition?_eq_some_iff s.tables i).2 h]
  rfl

/-- Some entry is the first without a name, or all have one. -/
theorem exists_firstBlank_or (entries : List TableRef) :
    (∃ i, FirstBlank entries i) ∨ ∀ t ∈ entries, Text.trim t.name ≠ "" := by
  cases h : Catalog.blankPosition? entries with
  | some i => exact .inl ⟨i, (blankPosition?_eq_some_iff entries i).1 h⟩
  | none =>
      rw [Catalog.blankPosition?, List.findIdx?_eq_none_iff] at h
      refine .inr fun t ht heq => ?_
      simpa [(Text.trim_eq_empty_iff _).1 heq] using h t ht

/-- Drawing fails exactly if some table has a blank name; then the fault, and the text of the graph,
tell the position of the first such table.  Otherwise a graph is drawn. -/
theorem draw_fails_iff_blank_name (s : Statement) (o : Options) :
    ((s.graph o).isDiagnostic = true ↔ ∃ t ∈ s.tables, Text.trim t.name = "") ∧
      ((∃ i, FirstBlank s.tables i ∧ s.draw o = .error (.emptyTableName i) ∧
          s.graph o = .diagnostic ("table reference at position " ++
            String.ofList (Nat.toDigits 10 i) ++ " has an empty name")) ∨
        ((∀ t ∈ s.tables, Text.trim t.name ≠ "") ∧ ∃ g, s.draw o = .ok g ∧ s.graph o = g)) := by
  rcases exists_firstBlank_or s.tables with ⟨i, hi⟩ | hnamed
  · have hdraw := draw_of_firstBlank hi o
    have hgraph : s.graph o = .diagnostic (GraphFault.emptyTableName i).message := by
      rw [Statement.graph, hdraw]
    have hsome : ∃ t ∈ s.tables, Text.trim t.name = "" := by
      obtain ⟨hlt, hblank, -⟩ := hi
      exact ⟨_, List.getElem_mem hlt, hblank⟩
    have hdiagnostic : (s.graph o).isDiagnostic = true := by
      rw [hgraph]
      rfl
    exact ⟨iff_of_true hdiagnostic hsome, .inl ⟨i, hi, hdraw, hgraph⟩⟩
  · have hgraph := graph_of_named hnamed o
    refine ⟨?_, .inr ⟨hnamed, _, draw_of_named hnamed o, hgraph⟩⟩
    rw [hgraph, isDiagnostic_namedGraph]
    refine ⟨fun h => absurd h Bool.false_ne_true, ?_⟩
    rintro ⟨t, ht, hblank⟩
    exact absurd hblank (hnamed t ht)

/-- The graph of every statement is well built, whether it shows the statement, stands for one with
nothing to draw, or tells a fault. -/
theorem wellBuilt_graph (s : Statement) (o : Options) : (s.graph o).WellBuilt := by
  rcases exists_firstBlank_or s.tables with ⟨i, hi⟩ | hnamed
  · rw [Statement.graph, draw_of_firstBlank hi o]
    exact wellBuilt_ofSingleField _ _ _ _
  · rw [graph_of_named hnamed o]
    exact wellBuilt_namedGraph s o

end JoinGraph
