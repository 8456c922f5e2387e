import JoinGraph.Proofs.FieldNodes

/-!
# Which columns have a field

Drawing comes to the observed columns in a certain order, and draws a field for each whose
identifier is not taken.  An identifier runs a table and a field together, so a table with a dot
in its name may share an identifier with another one (`fieldId_eq_iff`).  Then the first column
has a field, and the others are lost: nothing in the graph tells that they were observed.

## Main results

* `fieldId_eq_iff` — which columns share an identifier.
* `Plan.nodes_drawing_eq` — the nodes of a drawing, in order.
* `fields_graph` — the columns that have a field.
* `fields_graph_dotted` — a statement that observes two columns of different tables, and has a field
  for one of them.
-/

namespace JoinGraph

/-! ## Shared identifiers -/

private theorem append_dot_eq_iff (t f t' f' : List Char) :
    t ++ '.' :: f = t' ++ '.' :: f' ↔ (t = t' ∧ f = f') ∨
      (∃ x, t' = t ++ '.' :: x ∧ f = x ++ '.' :: f') ∨
      ∃ x, t = t' ++ '.' :: x ∧ f' = x ++ '.' :: f := by
  rw [List.append_eq_append_iff]
  constructor
  · rintro (⟨x, rfl, h⟩ | ⟨x, rfl, h⟩)
    · cases x with
      | nil => exact .inl (by simpa using h)
      | cons c x =>
          obtain ⟨rfl, rfl⟩ := List.cons.inj h
          exact .inr (.inl ⟨x, rfl, rfl⟩)
    · cases x with
      | nil =>
          obtain ⟨-, rfl⟩ := List.cons.inj h
          exact .inl (by simp)
      | cons c x =>
          obtain ⟨rfl, rfl⟩ := List.cons.inj h
          exact .inr (.inr ⟨x, rfl, rfl⟩)
  · rintro (⟨rfl, rfl⟩ | ⟨x, rfl, rfl⟩ | ⟨x, rfl, rfl⟩)
    · exact .inl ⟨[], by simp⟩
    · exact .inl ⟨'.' :: x, by simp⟩
    · exact .inr ⟨'.' :: x, by simp⟩

private theorem eq_dotted_iff (s a b : String) :
    s = a ++ "." ++ b ↔ s.toList = a.toList ++ '.' :: b.toList := by
  rw [← String.toList_inj]
  simp

/-- Two columns share an identifier if they are the same, or if the table of one goes on behind
that of the other, and the field of the other begins with what comes after the dot there. -/
theorem fieldId_eq_iff (t f t' f' : String) : fieldId t f = fieldId t' f' ↔ (t = t' ∧ f = f') ∨
    (∃ x, t' = t ++ "." ++ x ∧ f = x ++ "." ++ f') ∨ ∃ x, t = t' ++ "." ++ x ∧
      f' = x ++ "." ++ f := by
  have hchars : fieldId t f = fieldId t' f' ↔
      t.toList ++ '.' :: f.toList = t'.toList ++ '.' :: f'.toList := by
    rw [← String.toList_inj]
    simp [fieldId]
  have hpieces : ∀ P : List Char → Prop, (∃ x : String, P x.toList) ↔ ∃ x, P x := by
    intro P
    constructor
    · rintro ⟨x, h⟩
      exact ⟨x.toList, h⟩
    · rintro ⟨x, h⟩
      exact ⟨String.ofList x, by rwa [String.toList_ofList]⟩
  simp only [hchars, append_dot_eq_iff, eq_dotted_iff, String.toList_inj]
  rw [hpieces fun x => t'.toList = t.toList ++ '.' :: x ∧ f.toList = x ++ '.' :: f'.toList,
    hpieces fun x => t.toList = t'.toList ++ '.' :: x ∧ f'.toList = x ++ '.' :: f.toList]

/-! ## The order of fields -/

/-- A column, and the label with which its field is drawn. -/
structure LabelledColumn where
  table : String
  field : String
  label : String

namespace LabelledColumn

/-- The identifier of the field. -/
def id (c : LabelledColumn) : String := fieldId c.table c.field

/-- The table and the name of the column. -/
def column (c : LabelledColumn) : String × String := (c.table, c.field)

/-- The node of the field. -/
def node (p : Plan) (c : LabelledColumn) : Node := Sketch.fieldNode p c.table c.field c.label

end LabelledColumn

/-- The ends of a relation, each labelled with its own name. -/
def Relation.columns (r : Relation) : List LabelledColumn :=
  [⟨r.left.table, r.left.field, r.left.field⟩, ⟨r.right.table, r.right.field, r.right.field⟩]

namespace Plan

/-- The label with which a column is shown with its table. -/
def labelled (p : Plan) (c : String × String) : LabelledColumn :=
  ⟨c.1, c.2, labelOf p.labels (fieldId c.1 c.2) c.2⟩

/-- The columns in the order in which drawing comes to them: those shown with the tables, then the
ends of the first relation of each pair of tables. -/
def columns (p : Plan) : List LabelledColumn :=
  p.shown.map p.labelled ++ (firstsBy Relation.tables p.relations).flatMap Relation.columns

/-- Adds the field of a column to nodes of which none has its identifier. -/
def addField (p : Plan) (nodes : List Node) (c : LabelledColumn) : List Node :=
  if nodes.any (·.id == c.id) then nodes else nodes ++ [c.node p]

theorem nodes_drawField (p : Plan) (s : Sketch) (c : LabelledColumn) :
    (Sketch.drawField p s c.table c.field c.label).nodes = p.addField s.nodes c := by
  cases h : s.has (fieldId c.table c.field) with
  | true =>
      rw [Sketch.drawField_of_has h]
      exact (if_pos h).symm
  | false =>
      rw [Sketch.drawField_of_not_has h, addField, if_neg]
      · rfl
      · exact Bool.eq_false_iff.1 h

/-- A join draws the fields of both ends. -/
theorem nodes_drawJoin (p : Plan) (s : Sketch) (r : Relation) :
    (Sketch.drawJoin p s r).nodes = r.columns.foldl p.addField s.nodes := by
  have hleft := p.nodes_drawField ((s.markJoin r.left.table r.right.table).addLink r.tableLink)
    ⟨r.left.table, r.left.field, r.left.field⟩
  have hright := p.nodes_drawField (Sketch.drawField p
    ((s.markJoin r.left.table r.right.table).addLink r.tableLink) r.left.table r.left.field
      r.left.field) ⟨r.right.table, r.right.field, r.right.field⟩
  rw [hleft] at hright
  exact hright

/-- A step that acts on the nodes of a sketch makes a run that does. -/
private theorem nodes_foldl {α : Type} {step : Sketch → α → Sketch}
    (add : List Node → α → List Node) (h : ∀ s a, (step s a).nodes = add s.nodes a) (l : List α)
    (s : Sketch) : (l.foldl step s).nodes = l.foldl add s.nodes := by
  induction l generalizing s with
  | nil => rfl
  | cons a l ih => rw [List.foldl_cons, ih, h, List.foldl_cons]

variable {p : Plan}

/-- Tables come first, and then the fields of all columns, as far as their identifiers are free. -/
theorem nodes_joined (h : p.WellFormed) :
    p.joined.nodes = p.columns.foldl p.addField (Sketch.tableNodes p.catalog) := by
  have htables : (Sketch.empty.drawTables p.catalog).nodes = Sketch.tableNodes p.catalog := by
    rw [Sketch.drawTables_eq h.catalog]
  have hshown : ∀ s : Sketch, (s.drawFields p).nodes =
      p.shown.foldl (fun nodes c => p.addField nodes (p.labelled c)) s.nodes := by
    intro s
    rw [Sketch.drawFields_eq]
    exact nodes_foldl _ (fun s c => p.nodes_drawField s (p.labelled c)) p.shown s
  rw [joined, nodes_foldl (fun nodes r => r.columns.foldl p.addField nodes) (nodes_drawJoin p),
    hshown, htables, columns, List.foldl_append, List.foldl_map, List.foldl_flatMap]

/-- The nodes of a drawing are its tables and aliases, then the fields of those columns that are the
first with their identifier. -/
theorem nodes_drawing_eq (h : p.WellFormed) (o : Options) : (p.drawing o).nodes =
    Sketch.tableNodes p.catalog ++
      (firstsBy LabelledColumn.id p.columns).map (LabelledColumn.node p) := by
  have hrun := view_foldl LabelledColumn.id p.addField (fun nodes id => nodes.any (·.id == id)) id
    (LabelledColumn.node p) (fun nodes c hc => if_pos hc)
    (fun nodes c hc => if_neg (Bool.eq_false_iff.1 hc))
    (fun nodes c id hc => by
      have hnew : p.addField nodes c = nodes ++ [c.node p] := if_neg (Bool.eq_false_iff.1 hc)
      have hid : (c.node p).id = c.id := rfl
      rw [hnew, List.any_append, List.any_cons, List.any_nil, Bool.or_false, hid, Bool.or_comm,
        beq_eq_decide]
      simp only [eq_comm])
    p.columns (Sketch.tableNodes p.catalog)
  -- No table has the identifier of a field.
  have hfree : (p.columns.filter fun c =>
      !(Sketch.tableNodes p.catalog).any (·.id == c.id)) = p.columns := by
    refine List.filter_eq_self.2 fun c _ => ?_
    rw [Bool.not_eq_true', Bool.eq_false_iff, Ne, List.any_eq_true]
    rintro ⟨n, hn, hid⟩
    rcases List.mem_append.1 hn with hn | hn
    · obtain ⟨t, -, rfl⟩ := List.mem_map.1 hn
      exact tableId_ne_fieldId t c.table c.field (beq_iff_eq.1 hid)
    · obtain ⟨b, -, rfl⟩ := List.mem_map.1 hn
      exact tableId_ne_fieldId b.1 c.table c.field (beq_iff_eq.1 hid)
  rw [hfree] at hrun
  rw [nodes_drawing h, nodes_joined h]
  exact hrun

end Plan

/-! ## Statements -/

namespace Statement

/-- The observed columns, in the order in which drawing comes to them. -/
def columns (s : Statement) (o : Options) : List (String × String) :=
  (s.plan o).columns.map LabelledColumn.column

/-- The identifier of the field of a column. -/
def spelling (c : String × String) : String := fieldId c.1 c.2

/-- Drawing comes to exactly the observed columns. -/
theorem mem_columns_iff (s : Statement) (o : Options) (table field : String) :
    (table, field) ∈ s.columns o ↔ s.Observes o table field := by
  have hmem : (table, field) ∈ s.columns o ↔ (table, field) ∈ (s.plan o).shown ∨
      ∃ r ∈ firstsBy Relation.tables (s.plan o).relations,
        (r.left.table = table ∧ r.left.field = field) ∨
          (r.right.table = table ∧ r.right.field = field) := by
    simp [columns, Plan.columns, Plan.labelled, LabelledColumn.column, Relation.columns,
      List.map_flatMap, Function.comp_def, eq_comm]
  rw [hmem]
  constructor
  · rw [← draws_plan_iff]
    rintro (hshown | ⟨r, hr, hends⟩)
    · exact .inl hshown
    · exact .inr ⟨r, (firstsBy_sublist _ _).subset hr, hends⟩
  · intro hobserved
    by_cases hshown : (table, field) ∈ (s.plan o).shown
    · exact .inl hshown
    · exact .inr (exists_first_of_observes hobserved hshown)

end Statement

/-- The fields of a drawing are those of the columns that are the first with their identifier. -/
theorem fields_drawnGraph (s : Statement) (o : Options) : (s.drawnGraph o).fields =
    (firstsBy LabelledColumn.id (s.plan o).columns).map (LabelledColumn.node (s.plan o)) := by
  have hnodes : (s.drawnGraph o).nodes = _ := Plan.nodes_drawing_eq (wellFormed_plan s o) o
  have htables : (Sketch.tableNodes s.catalog).filter (·.kind == .field) = [] := by
    refine List.filter_eq_nil_iff.2 fun n hn => ?_
    rcases List.mem_append.1 hn with hn | hn <;> obtain ⟨_, -, rfl⟩ := List.mem_map.1 hn <;>
      simp [Node.ofTable, Node.ofAlias]
  have hfields : ((firstsBy LabelledColumn.id (s.plan o).columns).map
      (LabelledColumn.node (s.plan o))).filter (·.kind == .field) =
        (firstsBy LabelledColumn.id (s.plan o).columns).map (LabelledColumn.node (s.plan o)) := by
    refine List.filter_eq_self.2 fun n hn => ?_
    obtain ⟨c, -, rfl⟩ := List.mem_map.1 hn
    rfl
  rw [Graph.fields, hnodes, List.filter_append, catalog_plan, htables, hfields, List.nil_append]

theorem columns_fields_drawnGraph (s : Statement) (o : Options) :
    (s.drawnGraph o).fields.map Node.column = firstsBy Statement.spelling (s.columns o) := by
  rw [fields_drawnGraph, List.map_map, Statement.columns, firstsBy_map]
  rfl

/-- A field is drawn for the first of the observed columns that share an identifier, and for no
other.  So an observed column is without a field exactly if it shares the identifier of another
one that has a field, and all observed columns have fields exactly if no two of them share an
identifier.  It takes a table whose name goes on behind that of another one with a dot. -/
theorem fields_graph (s : Statement) (o : Options)
    (hnamed : ∀ t ∈ s.tables, Text.trim t.name ≠ "") (hsome : s.NamesTable) :
    let shown := (s.graph o).fields.map Node.column
    (∀ table field, (table, field) ∈ s.columns o ↔ s.Observes o table field) ∧
      shown = firstsBy Statement.spelling (s.columns o) ∧
      (∀ c ∈ s.columns o, c ∉ shown ↔
        ∃ c' ∈ shown, c' ≠ c ∧ Statement.spelling c' = Statement.spelling c) ∧
      ((∀ table field, s.Observes o table field → (table, field) ∈ shown) ↔ s.Separate o) ∧
      ∀ t f t' f', fieldId t f = fieldId t' f' ↔ (t = t' ∧ f = f') ∨
        (∃ x, t' = t ++ "." ++ x ∧ f = x ++ "." ++ f') ∨
        ∃ x, t = t' ++ "." ++ x ∧ f' = x ++ "." ++ f := by
  have hshown : (s.graph o).fields.map Node.column =
      firstsBy Statement.spelling (s.columns o) := by
    rw [graph_of_named hnamed, Statement.namedGraph, if_neg ((tables_catalog_ne_nil_iff s).2 hsome),
      columns_fields_drawnGraph]
  intro shown
  refine ⟨s.mem_columns_iff o, hshown, fun c hc => ?_, ?_, fieldId_eq_iff⟩
  · rw [show shown = _ from hshown]
    constructor
    · intro hlost
      obtain ⟨c', hc', hid⟩ := exists_mem_firstsBy Statement.spelling hc
      exact ⟨c', hc', fun heq => hlost (heq ▸ hc'), hid⟩
    · rintro ⟨c', hc', hne, hid⟩ hmem
      exact hne (eq_of_mem_firstsBy hc' hmem hid)
  · rw [show shown = _ from hshown]
    constructor
    · intro hall t f t' f' ho ho' hid
      exact Prod.mk.inj (eq_of_mem_firstsBy (hall t f ho) (hall t' f' ho') hid)
    · intro hseparate t f ho
      rw [← columns_fields_drawnGraph]
      exact mem_columns_of_observes hseparate ho

/-- Two tables, one named behind the other with a dot, and a column of each. -/
def dottedTables : Statement :=
  ⟨[⟨"sales", none⟩, ⟨"sales.eu", none⟩], [],
    [⟨some "sales", "eu.total", none⟩, ⟨some "sales.eu", "total", none⟩], none⟩

/-- The first of the two columns has a field, and the second is lost. -/
theorem fields_graph_lost :
    (∀ t ∈ dottedTables.tables, Text.trim t.name ≠ "") ∧ dottedTables.NamesTable ∧
      (dottedTables.graph .default).fields.map Node.column =
        [("sales", "eu.total"), ("sales", "id"), ("sales.eu", "sales_id")] ∧
      ¬ dottedTables.Separate .default := by
  have hnamed : ∀ t ∈ dottedTables.tables, Text.trim t.name ≠ "" := by decide
  have hsome : dottedTables.NamesTable := .inl (by decide)
  obtain ⟨hobserved, hfirst, -, hall, -⟩ := fields_graph dottedTables .default hnamed hsome
  have hcolumns : dottedTables.columns .default =
      [("sales", "eu.total"), ("sales.eu", "total"), ("sales", "id"),
        ("sales.eu", "sales_id")] := by
    decide +kernel
  have hshown : (dottedTables.graph .default).fields.map Node.column =
      [("sales", "eu.total"), ("sales", "id"), ("sales.eu", "sales_id")] := by
    rw [hfirst, hcolumns]
    decide +kernel
  refine ⟨hnamed, hsome, hshown, fun hseparate => ?_⟩
  have htotal : dottedTables.Observes .default "sales.eu" "total" :=
    (hobserved _ _).1 (by simp [hcolumns])
  have hfield := hall.2 hseparate _ _ htotal
  rw [hshown] at hfield
  simp at hfield

/-- Two columns of different tables are observed in a graph that is no diagnostic one, and no
field of it is owned by the second table and named as its column. -/
theorem fields_graph_dotted :
    (dottedTables.graph .default).isDiagnostic = false ∧
      dottedTables.Observes .default "sales" "eu.total" ∧
      dottedTables.Observes .default "sales.eu" "total" ∧
      (∃ n ∈ (dottedTables.graph .default).fields, n.column = ("sales", "eu.total")) ∧
      ∀ n ∈ (dottedTables.graph .default).fields, n.column ≠ ("sales.eu", "total") := by
  refine ⟨by decide +kernel, ?_, ?_, by decide +kernel, by decide +kernel⟩
  · rw [← Statement.mem_columns_iff]
    decide +kernel
  · rw [← Statement.mem_columns_iff]
    decide +kernel

end JoinGraph
