import JoinGraph.Proofs.DrawingOptions
import JoinGraph.Proofs.FieldOrder
import JoinGraph.Proofs.RestatedJoins

/-!
# The labels of fields

Labels are listed under the identifiers of fields, those of complete joins before those of
projected columns, and the last one under an identifier holds.  As long as identifiers tell
columns apart, this makes the last projected column decide that resolves to the column of a field.
Without one the joins decide, which have one and the same label for a column.  A field that is
drawn for a guess comes with its own name, and has no label to lose by that.

## Main results

* `labels_plan_eq` — the labels of a statement, in order.
* `labelOf_of_labels` — the label that holds.
* `label_mem_fields_drawnGraph` — every field is drawn with the label that holds for its column.
* `labels_graph` — how the fields of a graph are labelled.
-/

namespace JoinGraph

/-! ## The last label holds -/

section LabelOf

variable {front back labels : List (String × String)} {id label : String}

theorem labelOf_append_cons (hback : ∀ e ∈ back, e.1 ≠ id) (field : String) :
    labelOf (front ++ (id, label) :: back) id field = label := by
  have hnone : back.reverse.find? (·.1 == id) = none := by
    rw [List.find?_eq_none]
    simpa using hback
  simp [labelOf, List.find?_append, hnone]

theorem labelOf_append_of_forall_ne (hback : ∀ e ∈ back, e.1 ≠ id) (field : String) :
    labelOf (front ++ back) id field = labelOf front id field := by
  have hnone : back.reverse.find? (·.1 == id) = none := by
    rw [List.find?_eq_none]
    simpa using hback
  simp [labelOf, List.find?_append, hnone]

theorem labelOf_of_forall_ne (h : ∀ e ∈ labels, e.1 ≠ id) (field : String) :
    labelOf labels id field = field :=
  @labelOf_append_of_forall_ne [] labels id h field

/-- Of labels that are all the same it does not matter which one holds. -/
theorem labelOf_of_forall_eq (hsome : (id, label) ∈ labels)
    (hone : ∀ e ∈ labels, e.1 = id → e.2 = label) (field : String) :
    labelOf labels id field = label := by
  obtain ⟨e, hfind⟩ := exists_find?_key (List.mem_reverse.2 hsome)
  obtain ⟨he, hid⟩ := mem_of_find?_key hfind
  rw [labelOf, hfind]
  exact hone e (List.mem_reverse.1 he) hid

end LabelOf

/-- A list has no entry of a kind, or a last one. -/
private theorem none_or_exists_last {α : Type} (P : α → Prop) (l : List α) : (∀ a ∈ l, ¬ P a) ∨
    ∃ front a back, l = front ++ a :: back ∧ P a ∧ ∀ b ∈ back, ¬ P b := by
  induction l with
  | nil => exact .inl (by simp)
  | cons x l ih =>
      rcases ih with hnone | ⟨front, a, back, rfl, ha, hback⟩
      · by_cases hx : P x
        · exact .inr ⟨[], x, l, rfl, hx, hnone⟩
        · exact .inl (List.forall_mem_cons.2 ⟨hx, hnone⟩)
      · exact .inr ⟨x :: front, a, back, rfl, ha, hback⟩

/-! ## How columns are labelled -/

/-- A projected column that resolves to a column of a table labels it with its alias, and behind
it the column as it is written; without an alias of its own, with the column under the alias of
the table, and behind it under the table; else with the bare name. -/
inductive ProjectedColumn.Labels (p : ProjectedColumn) (s : Statement) (table field : String) :
    String → Prop
  | qualified {name q : String} (renamed : p.alias?.bind Text.nonBlank? = some name)
      (qualifier : p.table.bind Text.nonBlank? = some q) :
      Labels p s table field (name ++ " (" ++ q ++ "." ++ field ++ ")")
  | unqualified {name : String} (renamed : p.alias?.bind Text.nonBlank? = some name)
      (qualifier : p.table = none) : Labels p s table field (name ++ " (" ++ field ++ ")")
  | aliased {q : String} (renamed : p.alias?.bind Text.nonBlank? = none)
      (qualifier : p.table.bind Text.nonBlank? = some q) (binds : s.Binds q table) :
      Labels p s table field (q ++ "." ++ field ++ " (" ++ table ++ "." ++ field ++ ")")
  | bare (renamed : p.alias?.bind Text.nonBlank? = none)
      (qualifier : ∀ q, p.table.bind Text.nonBlank? = some q → ¬ s.Binds q table) :
      Labels p s table field field

namespace Statement

/-- The projected column is this column of the table. -/
def Resolves (s : Statement) (p : ProjectedColumn) (table field : String) : Prop :=
  Text.nonBlank? p.column = some field ∧ s.catalog.Owns p.ref table

/-- A column is labelled by the last projected column that resolves to it; without one, with its
table if a complete join names it by an alias, and else with its bare name. -/
inductive Labels (s : Statement) (table field : String) : String → Prop
  | projected {front back : List ProjectedColumn} {p : ProjectedColumn} {label : String}
      (split : s.projected = front ++ p :: back) (resolves : s.Resolves p table field)
      (last : ∀ p' ∈ back, ¬ s.Resolves p' table field) (labels : p.Labels s table field label) :
      Labels s table field label
  | joined (unprojected : ∀ p ∈ s.projected, ¬ s.Resolves p table field)
      (joined : s.JoinsByAlias table field) :
      Labels s table field (field ++ " (" ++ table ++ "." ++ field ++ ")")
  | bare (unprojected : ∀ p ∈ s.projected, ¬ s.Resolves p table field)
      (unjoined : ¬ s.JoinsByAlias table field) : Labels s table field field

end Statement

/-! ## The labels of projected columns -/

/-- What a projected column adds to the labels. -/
def ProjectedColumn.entry? (c : Catalog) (p : ProjectedColumn) : Option (String × String) :=
  (c.owned? p.ref).map fun own => (fieldId own.table own.field, p.label own)

/-- Guesses give no labels, so all labels are those of complete joins and of projected columns. -/
theorem labels_plan_eq (s : Statement) (o : Options) : (s.plan o).labels =
    joinLabels s.catalog (completeJoins s.joins) ++
      s.projected.filterMap (ProjectedColumn.entry? s.catalog) := by
  have hprojected : fieldLabels s.catalog [] s =
      s.projected.filterMap (ProjectedColumn.entry? s.catalog) := rfl
  rw [labels_plan, relations_plan, ← hprojected]
  by_cases hjoins : completeJoins s.joins = []
  · rw [hjoins, relationsOf_nil]
    split
    · exact fieldLabels_guesses (wellFormed_catalog s) s
    · rfl
  · rw [relationsOf_of_ne_nil _ hjoins, fieldLabels_ofWritten]

section Projected

variable {s : Statement} {p : ProjectedColumn} {table field label : String}

/-- A qualifier that resolves to a table is an alias unless it is the table. -/
theorem binds_iff_of_resolve {q : String} (hq : s.catalog.resolve q = table)
    (htable : table ∈ s.catalog.tables) : s.Binds q table ↔ q ≠ table := by
  rw [← mem_aliases_catalog_iff]
  constructor
  · rintro hbinds rfl
    exact (wellFormed_catalog s).disjoint _ hbinds htable
  · intro hne
    rw [← hq] at hne ⊢
    exact Catalog.mem_aliases_of_resolve_ne hne

/-- The label that a projected column gives. -/
theorem entry?_eq_of_labels (hresolves : s.Resolves p table field)
    (hlabels : p.Labels s table field label) :
    p.entry? s.catalog = some (fieldId table field, label) := by
  obtain ⟨own, ho, rfl, rfl⟩ := (exists_owned?_iff s.catalog p.ref table field).2 hresolves
  have howner := (owner?_eq_some_iff s.catalog p.ref _ _).1 ((owned?_eq_some_iff _ _ _).1 ho).2
  have hqualifier : ∀ q, p.table.bind Text.nonBlank? = some q →
      own.qualifier = q ∧ (s.Binds q own.table ↔ q ≠ own.table) := by
    intro q hq
    rcases howner with ⟨hq', hresolve, htable⟩ | ⟨hnone, -⟩
    · obtain rfl := Option.some.inj (hq.symm.trans hq')
      exact ⟨rfl, binds_iff_of_resolve hresolve htable⟩
    · exact absurd (hq.symm.trans hnone) (Option.some_ne_none q)
  have hlabel : p.label own = label := by
    cases hlabels with
    | @qualified name q hname hq =>
        have hsome : p.table.isSome = true := by
          cases htable : p.table <;> simp_all
        simp [ProjectedColumn.label, hname, hsome, (hqualifier q hq).1, String.append_assoc]
    | unqualified hname hnone => simp [ProjectedColumn.label, hname, hnone]
    | @aliased q hname hq hbinds =>
        obtain ⟨rfl, hiff⟩ := hqualifier q hq
        simp [ProjectedColumn.label, hname, hiff.1 hbinds]
    | bare hname hnot =>
        have hsame : own.qualifier = own.table := by
          rcases howner with ⟨hq, -⟩ | ⟨-, -, hq⟩
          · exact not_not.1 (mt (hqualifier _ hq).2.2 (hnot _ hq))
          · exact hq
        simp [ProjectedColumn.label, hname, hsame]
  rw [ProjectedColumn.entry?, ho, Option.map_some, hlabel]

/-- Every projected column whose qualifier is absent or not blank gives a label. -/
theorem exists_labels_of_qualifier (hqualifier : ∀ q ∈ p.table, Text.trim q ≠ "") :
    ∃ label, p.Labels s table field label := by
  have hcases : p.table = none ∨ ∃ q, p.table.bind Text.nonBlank? = some q := by
    cases htable : p.table with
    | none => exact .inl rfl
    | some q =>
        refine .inr ⟨Text.trim q, ?_⟩
        rw [Option.bind_some, Text.nonBlank?_eq_some_iff]
        exact ⟨rfl, hqualifier q htable⟩
  cases hname : p.alias?.bind Text.nonBlank? with
  | some name =>
      rcases hcases with hnone | ⟨q, hq⟩
      · exact ⟨_, .unqualified hname hnone⟩
      · exact ⟨_, .qualified hname hq⟩
  | none =>
      by_cases hbinds : ∃ q, p.table.bind Text.nonBlank? = some q ∧ s.Binds q table
      · obtain ⟨q, hq, hbinds⟩ := hbinds
        exact ⟨_, .aliased hname hq hbinds⟩
      · exact ⟨_, .bare hname fun q hq hbound => hbinds ⟨q, hq, hbound⟩⟩

/-- Every column is labelled. -/
theorem exists_labels (hqualified : ∀ p ∈ s.projected, ∀ q ∈ p.table, Text.trim q ≠ "")
    (table field : String) : ∃ label, s.Labels table field label := by
  rcases none_or_exists_last (fun p => s.Resolves p table field) s.projected with
    hnone | ⟨front, p, back, hsplit, hresolves, hlast⟩
  · by_cases hjoined : s.JoinsByAlias table field
    · exact ⟨_, .joined hnone hjoined⟩
    · exact ⟨_, .bare hnone hjoined⟩
  · have hmem : p ∈ s.projected := by simp [hsplit]
    obtain ⟨label, hlabels⟩ : ∃ label, p.Labels s table field label :=
      exists_labels_of_qualifier (hqualified p hmem)
    exact ⟨label, .projected hsplit hresolves hlast hlabels⟩

end Projected

/-! ## The label that holds -/

section Holds

variable {s : Statement} {table field label : String}

/-- A complete join labels the columns that it names by aliases. -/
theorem mem_joinLabels_of_joinsByAlias (h : s.JoinsByAlias table field) :
    (fieldId table field, field ++ " (" ++ table ++ "." ++ field ++ ")") ∈
      joinLabels s.catalog (completeJoins s.joins) := by
  have hlabel : ∀ q, s.Binds q table → (Relation.endpoint s.catalog q field).label? =
      some (fieldId table field, field ++ " (" ++ table ++ "." ++ field ++ ")") := by
    intro q hbinds
    have hmem := (mem_aliases_catalog_iff s q table).2 hbinds
    have hresolve := (wellFormed_catalog s).resolve_alias hmem
    have hne := (binds_iff_of_resolve hresolve ((wellFormed_catalog s).targets _ hmem)).1 hbinds
    simp [Endpoint.label?, Relation.endpoint, hresolve, hne]
  obtain ⟨w, hw, ⟨hbinds, rfl⟩ | ⟨hbinds, rfl⟩⟩ := h
  · exact List.mem_flatMap.2 ⟨w, hw, List.mem_filterMap.2 ⟨_, by simp, hlabel _ hbinds⟩⟩
  · exact List.mem_flatMap.2 ⟨w, hw, List.mem_filterMap.2 ⟨_, by simp, hlabel _ hbinds⟩⟩

section DotFree

variable (hdots : s.DotFree) (htable : table ∈ s.catalog.tables)

include hdots htable

/-- The label of another column stands under another identifier. -/
theorem ne_of_mem_entries {projected : List ProjectedColumn}
    (hnone : ∀ p ∈ projected, ¬ s.Resolves p table field) :
    ∀ e ∈ projected.filterMap (ProjectedColumn.entry? s.catalog), e.1 ≠ fieldId table field := by
  intro e he hid
  obtain ⟨p, hp, hentry⟩ := List.mem_filterMap.1 he
  rw [ProjectedColumn.entry?, Option.map_eq_some_iff] at hentry
  obtain ⟨own, ho, rfl⟩ := hentry
  have hknown := (known_of_owned? (wellFormed_catalog s) ho).table
  have hcolumn := fieldId_inj_of_no_dot (dot_not_mem_of_dotFree hdots hknown)
    (dot_not_mem_of_dotFree hdots htable) hid
  exact hnone p hp ((exists_owned?_iff s.catalog p.ref table field).1 ⟨own, ho, hcolumn⟩)

/-- Complete joins have one label for a column, and none for one that they do not name by an
alias. -/
theorem eq_of_mem_joinLabels {e : String × String}
    (he : e ∈ joinLabels s.catalog (completeJoins s.joins)) (hid : e.1 = fieldId table field) :
    s.JoinsByAlias table field ∧ e.2 = field ++ " (" ++ table ++ "." ++ field ++ ")" := by
  obtain ⟨t, f, hjoined, rfl⟩ := exists_of_mem_joinLabels he
  have hknown : t ∈ s.catalog.tables := by
    obtain ⟨w, -, ⟨hbinds, -⟩ | ⟨hbinds, -⟩⟩ := hjoined <;>
      exact (wellFormed_catalog s).targets _ ((mem_aliases_catalog_iff s _ t).2 hbinds)
  obtain ⟨rfl, rfl⟩ := fieldId_inj_of_no_dot (dot_not_mem_of_dotFree hdots hknown)
    (dot_not_mem_of_dotFree hdots htable) hid
  exact ⟨hjoined, rfl⟩

/-- The label of a column holds, as long as no table has a dot in its name. -/
theorem labelOf_of_labels (h : s.Labels table field label) (o : Options) :
    labelOf (s.plan o).labels (fieldId table field) field = label := by
  rw [labels_plan_eq]
  cases h with
  | projected hsplit hresolves hlast hlabels =>
      -- The entry of the last projected column stands behind those of joins and of earlier ones.
      rw [hsplit, List.filterMap_append,
        List.filterMap_cons_some (entry?_eq_of_labels hresolves hlabels), ← List.append_assoc]
      exact labelOf_append_cons (ne_of_mem_entries hdots htable hlast) field
  | joined hnone hjoined =>
      rw [labelOf_append_of_forall_ne (ne_of_mem_entries hdots htable hnone)]
      exact labelOf_of_forall_eq (mem_joinLabels_of_joinsByAlias hjoined)
        (fun e he hid => (eq_of_mem_joinLabels hdots htable he hid).2) field
  | bare hnone hnot =>
      rw [labelOf_append_of_forall_ne (ne_of_mem_entries hdots htable hnone)]
      exact labelOf_of_forall_ne
        (fun e he hid => hnot (eq_of_mem_joinLabels hdots htable he hid).1) field

end DotFree

end Holds

/-! ## The fields of a graph -/

/-- Complete joins join on the columns that they name by aliases. -/
theorem joinsOn_of_joinsByAlias {s : Statement} {table field : String}
    (h : s.JoinsByAlias table field) :
    JoinsOn s.catalog (completeJoins s.joins) table field := by
  have hresolve : ∀ q, s.Binds q table → s.catalog.resolve q = table := fun q hbinds =>
    (wellFormed_catalog s).resolve_alias ((mem_aliases_catalog_iff s q table).2 hbinds)
  obtain ⟨w, hw, ⟨hbinds, hfield⟩ | ⟨hbinds, hfield⟩⟩ := h
  · exact ⟨w, hw, .inl ⟨hresolve _ hbinds, hfield⟩⟩
  · exact ⟨w, hw, .inr ⟨hresolve _ hbinds, hfield⟩⟩

/-- Every field is drawn with the label that holds.  A field that is drawn for a relation comes
with its own name, but no other label holds for it, since columns that are projected or named by
complete joins are shown before. -/
theorem label_mem_fields_drawnGraph {s : Statement} {o : Options} (hdots : s.DotFree) {n : Node}
    (hn : n ∈ (s.drawnGraph o).fields) :
    n.name = labelOf (s.plan o).labels (fieldId n.column.1 n.column.2) n.column.2 := by
  rw [fields_drawnGraph, Plan.columns, firstsBy_append] at hn
  obtain ⟨c, hc, rfl⟩ := List.mem_map.1 hn
  rcases List.mem_append.1 hc with hc | hc
  · obtain ⟨column, -, rfl⟩ := List.mem_map.1 ((firstsBy_sublist _ _).subset hc)
    rfl
  · obtain ⟨hc, hnew⟩ := List.mem_filter.1 hc
    obtain ⟨r, hr, hend⟩ := List.mem_flatMap.1 ((firstsBy_sublist _ _).subset hc)
    have hr : r ∈ (s.plan o).relations := (firstsBy_sublist _ _).subset hr
    have hdrawn : (s.plan o).Relates c.table c.field ∧ c.label = c.field := by
      rcases List.mem_pair.1 hend with rfl | rfl
      · exact ⟨Plan.relates_left hr, rfl⟩
      · exact ⟨Plan.relates_right hr, rfl⟩
    -- A column that is shown has taken the identifier, so this one is not shown.
    have hshown : (c.table, c.field) ∉ (s.plan o).shown := fun hmem =>
      of_decide_eq_true hnew (List.mem_map.2 ⟨_, List.mem_map_of_mem hmem, rfl⟩)
    rw [mem_shown_plan_iff] at hshown
    have hlabels : s.Labels c.table c.field c.field := .bare
      (fun p hp hresolves => hshown (.inr (.inl ⟨p, hp, hresolves⟩)))
      (fun hjoined => hshown (.inl (joinsOn_of_joinsByAlias hjoined)))
    have htable := (wellFormed_plan s o).mem_tables_of_draws (.inr hdrawn.1)
    exact hdrawn.2.trans (labelOf_of_labels hdots htable hlabels o).symm

/-- A statement that names no table labels no column. -/
theorem labels_iff_of_no_table {s : Statement} (h : ¬ s.NamesTable) (table field label : String) :
    s.Labels table field label ↔ label = field := by
  have hnone : s.catalog.tables = [] := not_not.1 (mt (tables_catalog_ne_nil_iff s).1 h)
  have hprojected : ∀ p ∈ s.projected, ¬ s.Resolves p table field := by
    rintro p - ⟨-, ⟨q, -, -, hmem⟩ | ⟨-, htables⟩⟩
    · simp [hnone] at hmem
    · simp [hnone] at htables
  have hjoined : ¬ s.JoinsByAlias table field := by
    rintro ⟨w, hw, -⟩
    exact h (.inr ((exists_mem_completeJoins_iff s.joins).1 ⟨w, hw⟩))
  constructor
  · intro hlabels
    cases hlabels with
    | @projected _ _ p _ hsplit hresolves =>
        exact absurd hresolves (hprojected p (by rw [hsplit]; simp))
    | joined _ hjoins => exact absurd hjoins hjoined
    | bare => rfl
  · rintro rfl
    exact .bare hprojected hjoined

/-- A field is shown under the label of its column and no other: that of the last projected
column that resolves to it; without one, that of the complete joins that name it by an alias;
else its bare name, which the node has for its own name in any case.  The identifier and the
table of the node tell the column, but for the placeholder, which stands for a statement that
names no table. -/
theorem labels_graph (s : Statement) (o : Options)
    (hnamed : ∀ t ∈ s.tables, Text.trim t.name ≠ "") (hdots : s.DotFree)
    (hqualified : ∀ p ∈ s.projected, ∀ q ∈ p.table, Text.trim q ≠ "") :
    (∀ n ∈ (s.graph o).fields, ∃ table field, n.table? = some table ∧ n.ownName = field ∧
        (∀ label, n.name = label ↔ s.Labels table field label) ∧
        (s.NamesTable → n.id = fieldId table field ∧ s.Observes o table field)) ∧
      (¬ s.NamesTable → s.graph o = .placeholder) := by
  rw [graph_of_named hnamed, Statement.namedGraph, ← tables_catalog_ne_nil_iff]
  by_cases hnone : s.catalog.tables = []
  · have hno : ¬ s.NamesTable := fun h => (tables_catalog_ne_nil_iff s).2 h hnone
    rw [if_pos hnone]
    refine ⟨fun n hn => ?_, fun _ => rfl⟩
    obtain rfl := List.mem_singleton.1 (show n ∈ [_] from hn)
    refine ⟨_, _, rfl, rfl, fun label => ?_, fun h => absurd hnone h⟩
    rw [labels_iff_of_no_table hno]
    exact eq_comm
  · rw [if_neg hnone]
    refine ⟨fun n hn => ?_, fun h => absurd hnone h⟩
    obtain ⟨hobserved, hshows⟩ := shows_of_mem_fields hn
    have htable := mem_tables_of_observes hobserved
    have hname := label_mem_fields_drawnGraph hdots hn
    refine ⟨_, _, hshows.table_eq, hshows.name_eq, fun label => ?_, fun _ =>
      ⟨hshows.id_eq, hobserved⟩⟩
    constructor
    · rintro rfl
      obtain ⟨label, hlabels⟩ := exists_labels hqualified n.column.1 n.column.2
      rw [hname, labelOf_of_labels hdots htable hlabels o]
      exact hlabels
    · intro hlabels
      exact hname.trans (labelOf_of_labels hdots htable hlabels o)

/-- Two joins that name columns of one table by its alias; the column of the first of them is
projected twice, at first with an alias of its own. -/
def labelledColumns : Statement where
  tables := [⟨"users", some "u"⟩, ⟨"orders", none⟩]
  joins :=
    [⟨"orders", none, some ⟨some "u", "id"⟩, some ⟨some "orders", "buyer"⟩⟩,
      ⟨"orders", none, some ⟨some "u", "code"⟩, some ⟨some "orders", "code"⟩⟩]
  projected :=
    [⟨some "u", "id", some "key"⟩, ⟨some "u", "id", none⟩, ⟨some "orders", "total", some "sum"⟩]
  condition := none

/-- The last projected column labels the first join column, and the join the other one. -/
theorem labels_graph_last :
    (∀ t ∈ labelledColumns.tables, Text.trim t.name ≠ "") ∧ labelledColumns.DotFree ∧
      (∀ p ∈ labelledColumns.projected, ∀ q ∈ p.table, Text.trim q ≠ "") ∧
      (labelledColumns.graph .default).fields.map (fun n => (n.id, n.name)) =
        [("field:users.id", "u.id (users.id)"), ("field:users.code", "code (users.code)"),
          ("field:orders.buyer", "buyer"), ("field:orders.code", "code"),
          ("field:orders.total", "sum (orders.total)")] ∧
      labelledColumns.Labels "users" "id" "u.id (users.id)" ∧
      labelledColumns.Labels "users" "code" "code (users.code)" := by
  have hnamed : ∀ t ∈ labelledColumns.tables, Text.trim t.name ≠ "" := by decide
  have hdots : labelledColumns.DotFree := by decide
  have hqualified : ∀ p ∈ labelledColumns.projected, ∀ q ∈ p.table, Text.trim q ≠ "" := by decide
  obtain ⟨hlabels, -⟩ := labels_graph labelledColumns .default hnamed hdots hqualified
  have hof : ∀ table field label, (∃ n ∈ (labelledColumns.graph .default).fields,
      n.table? = some table ∧ n.ownName = field ∧ n.name = label) →
        labelledColumns.Labels table field label := by
    rintro table field label ⟨n, hn, htable, rfl, hname⟩
    obtain ⟨t, f, ht, rfl, hiff, -⟩ := hlabels n hn
    obtain rfl := Option.some.inj (ht.symm.trans htable)
    exact (hiff label).1 hname
  exact ⟨hnamed, hdots, hqualified, by decide +kernel, hof _ _ _ (by decide +kernel),
    hof _ _ _ (by decide +kernel)⟩

end JoinGraph
