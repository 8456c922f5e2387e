import JoinGraph.Proofs.Outcome
import JoinGraph.Proofs.ShapeTables
import JoinGraph.Session

/-!
# Sessions

Every text that is not blank has a graph that shows something, whatever the parsers make of it: the
matching of patterns always yields a tree, and the tables of a tree have names, which is all that
drawing asks for.  So a session takes over the aliases of every graph it draws, and a run of it ends
with those of the last text that is not blank.

## Main results

* `isDiagnostic_graph_iff` — the graph of a tree tells a fault exactly if its shape is not
  recognized.
* `Parsers.exists_generate` — every text that is not blank has a graph.
* `Session.lastAliases_run` — what a session holds after a run.
* `graphs_of_session` — all of this together.
-/

namespace JoinGraph

/-! ## Graphs of read statements -/

theorem nodes_namedGraph_ne_nil (s : Statement) (o : Options) : (s.namedGraph o).nodes ≠ [] := by
  unfold Statement.namedGraph
  split
  · exact List.cons_ne_nil _ _
  · next htables =>
      exact fun hnil => htables
        (((drawn_statement s o).nodes_eq_nil_iff (wellFormed_plan s o)).1 hnil)

/-- The graph of a statement with named tables tells no fault, and is not empty. -/
theorem Statement.TablesNamed.graph {s : Statement} (h : s.TablesNamed) (o : Options) :
    (s.graph o).isDiagnostic = false ∧ (s.graph o).nodes ≠ [] := by
  rw [graph_of_named h]
  exact ⟨isDiagnostic_namedGraph s o, nodes_namedGraph_ne_nil s o⟩

/-- The graph of a tree tells a fault exactly if its shape is not recognized. -/
theorem isDiagnostic_graph_iff (t : Tree) (o : Options) :
    (t.graph o).isDiagnostic = true ↔ ∃ fault, t.recognize = .error fault := by
  cases hshape : t.recognize with
  | error fault =>
      have hstatement : t.statement = .error fault := by simp [Tree.statement, hshape]
      have hgraph : t.graph o = .diagnostic fault.message := by rw [Tree.graph, hstatement]
      exact iff_of_true (by rw [hgraph]; rfl) ⟨fault, rfl⟩
  | ok shape =>
      have hstatement : t.statement = .ok shape.statement := by rw [Tree.statement, hshape]; rfl
      have hgraph : t.graph o = shape.statement.graph o := by rw [Tree.graph, hstatement]
      rw [hgraph, ((Shape.tablesNamed_statement shape).graph o).1]
      simp

/-! ## Texts -/

theorem nonBlank?_eq_none_iff (text : String) :
    Text.nonBlank? text = none ↔ Text.isBlankText text = true := by
  rw [← Text.trim_eq_empty_iff]
  simp [Text.nonBlank?, String.isEmpty_iff]

namespace Parsers

/-- The statement of a text has named tables, whichever parser it comes from. -/
theorem tablesNamed_statement (p : Parsers) (sql : String) : (p.statement sql).1.TablesNamed := by
  unfold Parsers.statement
  dsimp only
  split
  · next h => exact Tree.tablesNamed_of_statement h
  · exact Shape.Flat.tablesNamed_statement _

/-- Every text that is not blank has a graph that tells no fault and is not empty. -/
theorem exists_generate (p : Parsers) (o : Options) {sql : String}
    (h : Text.isBlankText sql = false) :
    ∃ r, p.generate o sql = .ok r ∧ r.graph.isDiagnostic = false ∧ r.graph.nodes ≠ [] := by
  obtain ⟨trimmed, htrimmed⟩ : ∃ trimmed, Text.nonBlank? sql = some trimmed := by
    rw [← Option.ne_none_iff_exists', Ne, nonBlank?_eq_none_iff, h]
    exact Bool.false_ne_true
  refine ⟨⟨(p.statement trimmed).1.graph o, (p.statement trimmed).1, (p.statement trimmed).2⟩, ?_,
    (p.tablesNamed_statement trimmed).graph o⟩
  rw [generate, htrimmed]

theorem generate_of_blank (p : Parsers) (o : Options) {sql : String}
    (h : Text.isBlankText sql = true) : p.generate o sql = .error .empty := by
  rw [generate, (nonBlank?_eq_none_iff sql).2 h]

end Parsers

/-! ## Runs -/

namespace Session

/-- The session after texts. -/
def run (s : Session) (texts : List String) : Session :=
  texts.foldl (fun s sql => (s.generate sql).2) s

/-- A blank text is refused and leaves everything as it was. -/
theorem generate_of_blank (s : Session) {sql : String} (h : Text.isBlankText sql = true) :
    s.generate sql = (.error .empty, s) := by
  rw [generate, s.parsers.generate_of_blank s.options h]

/-- Every other text is answered, and the aliases of its graph are kept. -/
theorem generate_of_not_blank (s : Session) {sql : String} (h : Text.isBlankText sql = false) :
    ∃ r, s.parsers.generate s.options sql = .ok r ∧
      s.generate sql = (.ok r, { s with lastAliases := r.graph.aliases }) ∧
      r.graph.isDiagnostic = false ∧ r.graph.nodes ≠ [] := by
  obtain ⟨r, hr, hdiagnostic, hnodes⟩ := s.parsers.exists_generate s.options h
  refine ⟨r, hr, ?_, hdiagnostic, hnodes⟩
  rw [generate, hr]
  simp [hdiagnostic]

/-- No text changes the parsers or the options. -/
theorem generate_keeps (s : Session) (sql : String) :
    (s.generate sql).2.parsers = s.parsers ∧ (s.generate sql).2.options = s.options := by
  cases h : Text.isBlankText sql with
  | true => simp [s.generate_of_blank h]
  | false =>
      obtain ⟨r, -, hr, -⟩ := s.generate_of_not_blank h
      simp [hr]

theorem run_keeps (s : Session) (texts : List String) :
    (s.run texts).parsers = s.parsers ∧ (s.run texts).options = s.options :=
  List.foldlRecOn (motive := fun d : Session => d.parsers = s.parsers ∧ d.options = s.options)
    texts _ ⟨rfl, rfl⟩ fun d hd sql _ =>
      ⟨(d.generate_keeps sql).1.trans hd.1, (d.generate_keeps sql).2.trans hd.2⟩

/-- Blank texts leave no trace. -/
theorem run_of_blank (s : Session) {texts : List String}
    (h : ∀ sql ∈ texts, Text.isBlankText sql = true) : s.run texts = s :=
  List.foldlRecOn (motive := fun d : Session => d = s) texts _ rfl fun d hd sql hsql => by
    rw [hd, s.generate_of_blank (h sql hsql)]

/-- After a run a session holds the aliases of the last graph it drew. -/
theorem lastAliases_run (s : Session) {before after : List String} {sql : String}
    (hsql : Text.isBlankText sql = false) (hafter : ∀ t ∈ after, Text.isBlankText t = true) :
    ∃ r, s.parsers.generate s.options sql = .ok r ∧
      (s.run (before ++ sql :: after)).lastAliases = r.graph.aliases := by
  have hsplit : s.run (before ++ sql :: after) = (((s.run before).generate sql).2).run after := by
    simp [run]
  obtain ⟨hparsers, hoptions⟩ := s.run_keeps before
  obtain ⟨r, hr, hstep, -⟩ := (s.run before).generate_of_not_blank hsql
  refine ⟨r, hparsers ▸ hoptions ▸ hr, ?_⟩
  rw [hsplit, hstep, run_of_blank _ hafter]

end Session

/-- Whatever the parsers and options are, a text that is not blank gets a graph that tells no
fault and is not empty, from a request as well as from a session; the graph of a tree tells a
fault exactly if its shape is not recognized.  So after any run a session holds the aliases of the
graph of the last text that is not blank, or none if there was no such text, and a blank text
changes nothing. -/
theorem graphs_of_session (p : Parsers) (o : Options) :
    (∀ request : Request, Text.isBlankText request.sql = false → ∃ r, request.generate = .ok r ∧
      r.graph.isDiagnostic = false ∧ r.graph.nodes ≠ []) ∧
    (∀ t : Tree, (t.graph o).isDiagnostic = true ↔ ∃ fault, t.recognize = .error fault) ∧
    ∀ texts : List String,
      let s := (Session.start p o).run texts
      (∀ sql, Text.isBlankText sql = false → ∃ r, p.generate o sql = .ok r ∧
        s.generate sql = (.ok r, { s with lastAliases := r.graph.aliases }) ∧
        r.graph.isDiagnostic = false ∧ r.graph.nodes ≠ []) ∧
      (∀ sql, Text.isBlankText sql = true → s.generate sql = (.error .empty, s)) ∧
      ((∀ sql ∈ texts, Text.isBlankText sql = true) → s.lastAliases = .empty) ∧
      ∀ before sql after, texts = before ++ sql :: after → Text.isBlankText sql = false →
        (∀ t ∈ after, Text.isBlankText t = true) →
        ∃ r, p.generate o sql = .ok r ∧ s.lastAliases = r.graph.aliases := by
  refine ⟨fun request h => request.allParsers.exists_generate request.options h,
    fun t => isDiagnostic_graph_iff t o, fun texts => ⟨fun sql h => ?_,
      fun sql h => Session.generate_of_blank _ h, fun h => ?_, ?_⟩⟩
  · obtain ⟨hparsers, hoptions⟩ := (Session.start p o).run_keeps texts
    obtain ⟨r, hr, hrest⟩ := ((Session.start p o).run texts).generate_of_not_blank h
    rw [hparsers, hoptions] at hr
    exact ⟨r, hr, hrest⟩
  · rw [Session.run_of_blank _ h]
    rfl
  · rintro before sql after rfl hsql hafter
    exact Session.lastAliases_run (Session.start p o) hsql hafter

/-- Parsers of which the first breaks off, and the second yields a value of no known shape. -/
def strayParsers : Parsers :=
  ⟨some fun _ => .aborted "out of memory", some fun _ => .tree (.json (.array [.null]))⟩

/-- The text is read by patterns, the blank text after it changes nothing, and the value has no
shape. -/
theorem graphs_of_session_stray :
    Text.isBlankText "SELECT o.id FROM orders o" = false ∧ Text.isBlankText " \t" = true ∧
      (∃ r, strayParsers.generate .default "SELECT o.id FROM orders o" = .ok r ∧
        ((Session.start strayParsers .default).run ["SELECT o.id FROM orders o",
          " \t"]).lastAliases =
          r.graph.aliases ∧ r.graph.aliases.entries = [("o", "orders")]) ∧
      ((Tree.json (.array [.null])).graph .default).isDiagnostic = true := by
  have hsql : Text.isBlankText "SELECT o.id FROM orders o" = false := by decide
  have hblank : Text.isBlankText " \t" = true := by decide
  obtain ⟨-, htree, hrun⟩ := graphs_of_session strayParsers .default
  obtain ⟨-, -, -, hlast⟩ := hrun ["SELECT o.id FROM orders o", " \t"]
  obtain ⟨r, hr, haliases⟩ := hlast [] _ [" \t"] rfl hsql (by simpa using hblank)
  have hfault : ∃ fault, (Tree.json (.array [.null])).recognize = .error fault := ⟨_, rfl⟩
  refine ⟨hsql, hblank, ⟨r, hr, haliases, ?_⟩, (htree _).2 hfault⟩
  have hread : (strayParsers.generate .default "SELECT o.id FROM orders o").map
      (fun r => r.graph.aliases.entries) = .ok [("o", "orders")] := by decide +kernel
  simpa [hr, Except.map] using hread

end JoinGraph
