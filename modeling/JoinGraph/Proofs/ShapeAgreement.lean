import JoinGraph.Proofs.BareName
import JoinGraph.Proofs.Registration
import JoinGraph.Proofs.WrittenShapes
import JoinGraph.Proofs.WrittenTrees

/-!
# One statement in three shapes

A statement can be written in each of the three shapes, and the shapes are read by rules of their
own: they disagree on how to say that there is no alias, on whether names are still delimited or
qualified, and on where joins stand.  For statements whose names leave nothing to undress
(`Statement.Portable`) these rules come to the same: each written form gives back the statement.

## Main results

* `ColumnRef.IsBare.ref?_grammar`, `ColumnRef.IsBare.ref?_structured` — columns are read as written.
* `Statement.Portable.statement_grammar`, `Statement.Portable.statement_structured`,
  `Statement.Portable.statement_flat` — the statement of each tree.
* `statement_of_shapes` — the statement of each written form.
-/

namespace JoinGraph

/-! ## Statements that every shape keeps -/

/-- A join with both sides or none, and bare columns on both. -/
structure Join.SidesBare (j : Join) : Prop where
  both : j.left.isSome = j.right.isSome
  left : ∀ c ∈ j.left, c.IsBare
  right : ∀ c ∈ j.right, c.IsBare

theorem Join.SidesBare.cases {j : Join} (h : j.SidesBare) : (j.left = none ∧ j.right = none) ∨
    ∃ l r, j.left = some l ∧ j.right = some r ∧ l.IsBare ∧ r.IsBare := by
  have hboth := h.both
  cases hl : j.left with
  | none =>
      rw [hl] at hboth
      exact .inl ⟨rfl, Option.isNone_iff_eq_none.1 (Option.isSome_eq_false_iff.1 hboth.symm)⟩
  | some l =>
      rw [hl] at hboth
      obtain ⟨r, hr⟩ := Option.isSome_iff_exists.1 hboth.symm
      exact .inr ⟨l, r, rfl, hr, h.left l hl, h.right r hr⟩

instance (j : Join) : Decidable j.SidesBare :=
  decidable_of_iff (j.left.isSome = j.right.isSome ∧ (∀ c ∈ j.left, c.IsBare) ∧
    ∀ c ∈ j.right, c.IsBare)
    ⟨fun ⟨hboth, hleft, hright⟩ => ⟨hboth, hleft, hright⟩, fun h => ⟨h.both, h.left, h.right⟩⟩

theorem forall₂_map_of_forall {α β : Type} {write : α → β} {r : β → α → Prop} {items : List α}
    (h : ∀ a ∈ items, r (write a) a) : List.Forall₂ r (items.map write) items := by
  rw [List.forall₂_map_left_iff, List.forall₂_same]
  exact h

/--
A statement with bare names: no alias is declared twice or repeats the name of its table, every join
has both sides or none, the joined tables come last, no column is a wildcard, and the literal of the
condition has no quotes or blanks around it.
-/
structure Statement.Portable (s : Statement) : Prop where
  tables : ∀ t ∈ s.tables, IsBareName t.name ∧ ∀ a ∈ t.alias?, IsBareName a ∧ a ≠ t.name
  aliases_nodup : (s.tables.filterMap TableRef.alias?).Nodup
  joined_last : s.joins.map Join.tableRef <:+ s.tables
  sides : ∀ j ∈ s.joins, j.SidesBare
  projected : ∀ p ∈ s.projected, p.ref.IsBare ∧ p.column ≠ "*" ∧
    ∀ a ∈ p.alias?, a ≠ "" ∧ Text.trim a = a
  condition : ∀ c ∈ s.condition, c.left.IsBare ∧ Name.unquote c.literal = c.literal

instance (s : Statement) : Decidable s.Portable :=
  decidable_of_iff
    ((∀ t ∈ s.tables, IsBareName t.name ∧ ∀ a ∈ t.alias?, IsBareName a ∧ a ≠ t.name) ∧
    (s.tables.filterMap TableRef.alias?).Nodup ∧ s.joins.map Join.tableRef <:+ s.tables ∧
    (∀ j ∈ s.joins, j.SidesBare) ∧
    (∀ p ∈ s.projected, p.ref.IsBare ∧ p.column ≠ "*" ∧
      ∀ a ∈ p.alias?, a ≠ "" ∧ Text.trim a = a) ∧
    ∀ c ∈ s.condition, c.left.IsBare ∧ Name.unquote c.literal = c.literal)
    ⟨fun ⟨htables, hnodup, hlast, hsides, hprojected, hcondition⟩ =>
        ⟨htables, hnodup, hlast, hsides, hprojected, hcondition⟩,
      fun h => ⟨h.tables, h.aliases_nodup, h.joined_last, h.sides, h.projected, h.condition⟩⟩

/-- The tables of the FROM list: those in front of the joined tables. -/
def Statement.sources (s : Statement) : List TableRef :=
  s.tables.take (s.tables.length - s.joins.length)

namespace Statement.Portable

variable {s : Statement}

theorem tables_eq (h : s.Portable) : s.tables = s.sources ++ s.joins.map Join.tableRef := by
  obtain ⟨front, hfront⟩ := h.joined_last
  rw [sources, ← hfront]
  simp

theorem registrable (h : s.Portable) :
    Registrable (s.sources ++ s.joins.map Join.tableRef) where
  named t ht := (h.tables t (h.tables_eq ▸ ht)).1.not_blank
  alias_ne t ht a ha := by
    obtain ⟨hbare, hne⟩ := (h.tables t (h.tables_eq ▸ ht)).2 a ha
    exact ⟨hbare.ne_empty, hne⟩
  aliases_nodup := h.tables_eq ▸ h.aliases_nodup

theorem bare_source (h : s.Portable) {t : TableRef} (ht : t ∈ s.sources) :
    IsBareName t.name ∧ ∀ a ∈ t.alias?, IsBareName a := by
  obtain ⟨hname, halias⟩ := h.tables t (List.mem_of_mem_take ht)
  exact ⟨hname, fun a ha => (halias a ha).1⟩

theorem bare_join (h : s.Portable) {j : Join} (hj : j ∈ s.joins) :
    IsBareName j.table ∧ ∀ a ∈ j.alias?, IsBareName a := by
  have hmem : j.tableRef ∈ s.tables := h.joined_last.subset (List.mem_map_of_mem hj)
  obtain ⟨hname, halias⟩ := h.tables j.tableRef hmem
  exact ⟨hname, fun a ha => (halias a ha).1⟩

/-- The FROM list and the joins, added entry by entry, make up the tables and joins. -/
theorem foldl_sources_joins (h : s.Portable) {α β : Type} {addTable : Statement → α → Statement}
    {addJoin : Statement → β → Statement} {writeTable : TableRef → α} {writeJoin : Join → β}
    (htable : ∀ t ∈ s.sources, ∀ d, addTable d (writeTable t) = d.pushTable t.name t.alias?)
    (hjoin : ∀ j ∈ s.joins, ∀ d,
      addJoin d (writeJoin j) = d.pushJoin j.table j.alias? j.left j.right) :
    (s.joins.map writeJoin).foldl addJoin
      ((s.sources.map writeTable).foldl addTable Statement.empty) =
        ⟨s.tables, s.joins, [], none⟩ := by
  have hsources : (s.sources.map writeTable).foldl addTable Statement.empty =
      ⟨s.sources, [], [], none⟩ :=
    foldl_tables (s := Statement.empty) (forall₂_map_of_forall htable) h.registrable
  rw [hsources, foldl_joins (forall₂_map_of_forall hjoin) h.registrable, ← h.tables_eq]
  rfl

end Statement.Portable

/-! ## Writing statements as trees -/

section Writing

/-! How the lack of an alias is written, `absent`, is left open: as null or as a blank text. -/

variable (absent : Option String)

namespace Shape.Grammar

/-- A column as an expression. -/
def Expr.ofRef (c : ColumnRef) : Expr := .column c.table c.column

/-- The equality of two columns. -/
def Expr.ofSides (left right : ColumnRef) : Expr := .binary "=" (ofRef left) (ofRef right)

/-- A comparison of a column with a quoted text. -/
def Expr.ofCondition (c : Condition) : Expr :=
  .binary c.operator.sign (ofRef c.left) (.literal "single_quote_string" (.string c.literal))

/-- An entry of the SELECT list. -/
def Column.ofProjected (p : ProjectedColumn) : Column := ⟨Expr.ofRef p.ref, p.alias?.or absent⟩

/-- An entry of the FROM list. -/
def Source.ofTable (t : TableRef) : Source := ⟨none, t.name, t.alias?.or absent, none, none⟩

/-- A joined entry of the FROM list. -/
def Source.ofJoin (j : Join) : Source where
  db := none
  table := j.table
  alias? := j.alias?.or absent
  join := some "JOIN"
  on := j.left.bind fun l => j.right.map fun r => Expr.ofSides l r

/-- A statement in the grammar shape: the joins stand in the FROM list. -/
def Select.ofStatement (s : Statement) : Select where
  kind := "select"
  columns := .list (s.projected.map (Column.ofProjected absent))
  sources := s.sources.map (Source.ofTable absent) ++ s.joins.map (Source.ofJoin absent)
  condition := s.condition.map Expr.ofCondition

end Shape.Grammar

namespace Shape.Structured

/-- A column as an operand. -/
def Operand.ofRef (c : ColumnRef) : Operand := ⟨none, c.table, some c.column⟩

/-- An entry of the SELECT list. -/
def Column.ofProjected (p : ProjectedColumn) : Column :=
  ⟨{ Operand.ofRef p.ref with kind := some "column" }, p.alias?.or absent⟩

/-- An entry of the FROM list. -/
def Table.ofTable (t : TableRef) : Table := ⟨t.name, t.alias?.or absent⟩

/-- A joined table; one without sides has no ON. -/
def Join.ofJoin (j : JoinGraph.Join) : Join where
  table := j.table
  alias? := j.alias?.or absent
  on := if j.left.isNone && j.right.isNone then none
    else some ⟨j.left.map Operand.ofRef, j.right.map Operand.ofRef⟩

/-- A comparison of a column with a literal. -/
def comparisonJson (c : Condition) : Json :=
  .object [("left", (Operand.ofRef c.left).toJson), ("operator", .string c.operator.sign),
    ("right", .object [("type", .string "literal"), ("literal", .string c.literal)])]

/-- A statement in the structured shape. -/
def Select.ofStatement (s : Statement) : Select where
  columns := s.projected.map (Column.ofProjected absent)
  tables := s.sources.map (Table.ofTable absent)
  joins := s.joins.map (Join.ofJoin absent)
  condition := s.condition.map comparisonJson

end Shape.Structured

namespace Shape.Flat

/-- An entry of the SELECT list. -/
def Column.ofProjected (p : ProjectedColumn) : Column := ⟨p.ref, p.alias?.or absent⟩

/-- An entry of the FROM list. -/
def Table.ofTable (t : TableRef) : Table := ⟨t.name, t.alias?.or absent⟩

/-- A joined table. -/
def Join.ofJoin (j : JoinGraph.Join) : Join := ⟨j.table, j.alias?.or absent, j.left, j.right⟩

/-- A statement in the flat shape. -/
def Select.ofStatement (s : Statement) : Select where
  columns := s.projected.map (Column.ofProjected absent)
  tables := s.sources.map (Table.ofTable absent)
  joins := s.joins.map (Join.ofJoin absent)
  condition := s.condition

end Shape.Flat

end Writing

/-! ## Reading names -/

section Reading

variable {absent : Option String} {name? : Option String} {c : ColumnRef} {s : Statement}

/-- An alias is read whether it is there or not. -/
theorem bind_or_absent (habsent : absent.bind Text.nonBlank? = none)
    (h : ∀ a ∈ name?, a ≠ "" ∧ Text.trim a = a) :
    (name?.or absent).bind Text.nonBlank? = name? := by
  cases name? with
  | none => simpa using habsent
  | some a =>
      obtain ⟨hne, htrim⟩ := h a rfl
      rw [Option.some_or, Option.bind_some]
      exact (Text.nonBlank?_eq_some_iff a a).2 ⟨htrim, hne⟩

/-- So is one that is undressed. -/
theorem map_bare_or_absent (habsent : absent.bind Text.nonBlank? = none)
    (h : ∀ a ∈ name?, IsBareName a) :
    ((name?.or absent).bind Text.nonBlank?).map Name.bare = name? := by
  rw [bind_or_absent habsent fun a ha => ⟨(h a ha).ne_empty, (h a ha).trimmed⟩]
  cases name? with
  | none => rfl
  | some a => rw [Option.map_some, (h a rfl).bare_eq]

/-- In the grammar shape a bare column is read as it is written. -/
theorem ColumnRef.IsBare.ref?_grammar (h : c.IsBare) :
    (Shape.Grammar.Expr.ofRef c).ref? = some c := by
  have hcolumn : Name.bare c.column ≠ "" := h.column.bare_eq.symm ▸ h.column.ne_empty
  simp only [Shape.Grammar.Expr.ofRef, Shape.Grammar.Expr.column, Shape.Grammar.Expr.ref?, guard,
    if_true, Option.bind_eq_bind, Option.bind_some, Shape.Grammar.Expr.columnName?,
    bind_nonBlank?_of_bare h.table]
  obtain ⟨table, column⟩ := c
  cases table with
  | none => exact h.column.ofPath?_eq
  | some t => simp [h.column.bare_eq, h.column.ne_empty, (h.table t rfl).bare_eq]

/-- In the structured shape, too. -/
theorem ColumnRef.IsBare.ref?_structured (h : c.IsBare) (kind : Option String) :
    Shape.Structured.Operand.ref? ⟨kind, c.table, some c.column⟩ = some c := by
  simp only [Shape.Structured.Operand.ref?, Option.bind_eq_bind, Option.bind_some,
    h.column.nonBlank?_eq, bind_nonBlank?_of_bare h.table]
  obtain ⟨table, column⟩ := c
  cases table with
  | none => exact h.column.ofPath?_eq
  | some t => simp [h.column.bare_eq, (h.table t rfl).bare_eq]

/-- A list whose entries are read one by one is read. -/
theorem filterMap_map_of_read {α β : Type} {write : α → β} {read : β → Option α} {items : List α}
    (h : ∀ a ∈ items, read (write a) = some a) : (items.map write).filterMap read = items := by
  rw [List.filterMap_map, List.filterMap_congr (f := read ∘ write) (g := some) h,
    List.filterMap_some]

/-! ## The grammar shape -/

/-- An entry of the SELECT list is read as what it projects. -/
theorem projected?_ofProjected (habsent : absent.bind Text.nonBlank? = none) {p : ProjectedColumn}
    (hbare : p.ref.IsBare) (hstar : p.column ≠ "*")
    (halias : ∀ a ∈ p.alias?, a ≠ "" ∧ Text.trim a = a) :
    (Shape.Grammar.Column.ofProjected absent p).projected? = some p := by
  rw [Shape.Grammar.Column.projected?, Shape.Grammar.Column.ofProjected, hbare.ref?_grammar,
    bind_or_absent habsent halias]
  simp [ProjectedColumn.ref, hstar]

/-- An entry of the FROM list adds its table. -/
theorem addTo_ofTable (habsent : absent.bind Text.nonBlank? = none) {t : TableRef}
    (hname : IsBareName t.name) (halias : ∀ a ∈ t.alias?, IsBareName a) (d : Statement) :
    (Shape.Grammar.Source.ofTable absent t).addTo d = d.pushTable t.name t.alias? := by
  simp [Shape.Grammar.Source.ofTable, Shape.Grammar.Source.addTo, hname.bare_eq, hname.ne_empty,
    map_bare_or_absent habsent halias]

/-- The equality of two columns is read as these columns. -/
theorem equality?_ofSides {l r : ColumnRef} (hl : l.IsBare) (hr : r.IsBare) :
    (Shape.Grammar.Expr.ofSides l r).equality? = some (l, r) := by
  rw [Shape.Grammar.Expr.ofSides, Shape.Grammar.Expr.binary, Shape.Grammar.Expr.equality?_node,
    if_neg (by decide), if_pos (by decide)]
  simp [hl.ref?_grammar, hr.ref?_grammar]

/-- A joined entry adds its table and its join. -/
theorem addTo_ofJoin (habsent : absent.bind Text.nonBlank? = none) {j : Join}
    (hname : IsBareName j.table) (halias : ∀ a ∈ j.alias?, IsBareName a) (hsides : j.SidesBare)
    (d : Statement) :
    (Shape.Grammar.Source.ofJoin absent j).addTo d =
      d.pushJoin j.table j.alias? j.left j.right := by
  have hread : ((j.left.bind fun l => j.right.map fun r => Shape.Grammar.Expr.ofSides l r).bind
      Shape.Grammar.Expr.equality?).map (·.1) = j.left ∧
      ((j.left.bind fun l => j.right.map fun r => Shape.Grammar.Expr.ofSides l r).bind
        Shape.Grammar.Expr.equality?).map (·.2) = j.right := by
    rcases hsides.cases with ⟨hleft, hright⟩ | ⟨l, r, hleft, hright, hl, hr⟩
    · simp [hleft, hright]
    · simp [hleft, hright, equality?_ofSides hl hr]
  simp [Shape.Grammar.Source.ofJoin, Shape.Grammar.Source.addTo, hname.bare_eq, hname.ne_empty,
    map_bare_or_absent habsent halias, hread]

/-- The comparison of a column with a quoted text is read; `<>` is a sign of inequality, too. -/
theorem comparison?_binary {c : Condition} {sign : String} (hleft : c.left.IsBare)
    (hliteral : Name.unquote c.literal = c.literal)
    (hsign : sign = c.operator.sign ∨ c.operator = .notEqual ∧ sign = "<>") :
    (Shape.Grammar.Expr.binary sign (.ofRef c.left)
      (.literal "single_quote_string" (.string c.literal))).comparison? = some c := by
  have hread : Comparison.read? sign = some c.operator ∧
      Shape.Grammar.Expr.joinsBy ["AND", "OR"] Shape.Grammar.Expr.binaryKind
        (some sign) = false := by
    rcases hsign with rfl | ⟨hoperator, rfl⟩
    · cases c.operator <;> decide
    · rw [hoperator]
      decide
  have htext :
      (Shape.Grammar.Expr.literal "single_quote_string" (.string c.literal)).comparedText? =
        some (Name.unquote c.literal) := rfl
  rw [Shape.Grammar.Expr.binary, Shape.Grammar.Expr.comparison?_node, hread.2]
  simp [hread.1, hleft.ref?_grammar, htext, hliteral]

namespace Statement.Portable

/-- The tree in the grammar shape stands for the statement. -/
theorem statement_grammar (h : s.Portable) (habsent : absent.bind Text.nonBlank? = none) :
    (Shape.Grammar.Select.ofStatement absent s).statement = s := by
  have hsources := h.foldl_sources_joins
    (fun t ht d => addTo_ofTable habsent (h.bare_source ht).1 (h.bare_source ht).2 d)
    (fun j hj d => addTo_ofJoin habsent (h.bare_join hj).1 (h.bare_join hj).2 (h.sides j hj) d)
  have hprojected : (s.projected.map (Shape.Grammar.Column.ofProjected absent)).filterMap
      Shape.Grammar.Column.projected? = s.projected := by
    refine filterMap_map_of_read fun p hp => ?_
    obtain ⟨hbare, hstar, halias⟩ := h.projected p hp
    exact projected?_ofProjected habsent hbare hstar halias
  have hcondition : (s.condition.map Shape.Grammar.Expr.ofCondition).bind
      Shape.Grammar.Expr.comparison? = s.condition := by
    cases hc : s.condition with
    | none => rfl
    | some c =>
        rw [Option.map_some, Option.bind_some]
        exact comparison?_binary (h.condition c hc).1 (h.condition c hc).2 (.inl rfl)
  simp only [Shape.Grammar.Select.statement, Shape.Grammar.Select.ofStatement, List.foldl_append,
    hsources, hprojected, hcondition]

/-! ## The structured shape -/

theorem predicate?_comparisonJson {c : Condition} (hleft : c.left.IsBare)
    (hliteral : Name.unquote c.literal = c.literal) :
    Shape.Structured.predicate? (Shape.Structured.comparisonJson c) = some c := by
  have hoperator : Comparison.read? c.operator.sign = some c.operator := by
    cases c.operator <;> decide
  have hcolumn : Shape.Structured.valueRef? (Shape.Structured.Operand.ofRef c.left).toJson =
      some c.left := by
    rw [Shape.Structured.valueRef?, Shape.Structured.Operand.decode_toJson]
    exact hleft.ref?_structured none
  have htext : Shape.Structured.comparedText? (.object [("type", .string "literal"),
      ("literal", .string c.literal)]) = some (Name.unquote c.literal) := by
    have hinner : Shape.Structured.innerLiteral? (.object [("type", .string "literal"),
        ("literal", .string c.literal)]) = some (.string c.literal) := by
      simp [Shape.Structured.innerLiteral?, Json.get?]
    rw [Shape.Structured.comparedText?]
    split
    · next inner hsome =>
        obtain rfl := Option.some.inj (hinner.symm.trans hsome)
        rw [Shape.Structured.comparedText?]
    · next hnone => simp [hinner] at hnone
  have hget : (Shape.Structured.comparisonJson c).get? "left" =
      some (Shape.Structured.Operand.ofRef c.left).toJson := by
    simp [Shape.Structured.comparisonJson, Json.get?]
  rw [Shape.Structured.predicate?]
  split
  · next hnone => simp [hget] at hnone
  · next left hsome =>
      obtain rfl := Option.some.inj (hget.symm.trans hsome)
      simp [hcolumn, Shape.Structured.comparisonJson, Json.get?, Json.asString?, hoperator, htext,
        hliteral]

/-- The tree in the structured shape stands for the statement. -/
theorem statement_structured (h : s.Portable) (habsent : absent.bind Text.nonBlank? = none) :
    (Shape.Structured.Select.ofStatement absent s).statement = s := by
  have hprojected : (s.projected.map (Shape.Structured.Column.ofProjected absent)).filterMap
      Shape.Structured.Column.projected? = s.projected := by
    refine filterMap_map_of_read fun p hp => ?_
    obtain ⟨hbare, hstar, halias⟩ := h.projected p hp
    simp only [Shape.Structured.Column.projected?, Shape.Structured.Column.ofProjected,
      Shape.Structured.Operand.ofRef, hbare.ref?_structured, bind_or_absent habsent halias]
    simp [ProjectedColumn.ref, hstar]
  have hcondition : (s.condition.map Shape.Structured.comparisonJson).bind
      Shape.Structured.predicate? = s.condition := by
    cases hc : s.condition with
    | none => rfl
    | some c =>
        rw [Option.map_some, Option.bind_some]
        exact predicate?_comparisonJson (h.condition c hc).1 (h.condition c hc).2
  simp only [Shape.Structured.Select.statement, Shape.Structured.Select.ofStatement, hprojected,
    hcondition]
  rw [h.foldl_sources_joins]
  case htable =>
    intro t ht d
    obtain ⟨hname, halias⟩ := h.bare_source ht
    simp only [Shape.Structured.Table.ofTable, Shape.Structured.aliasName?, hname.bare_eq,
      map_bare_or_absent habsent halias]
  case hjoin =>
    intro j hj d
    obtain ⟨hname, halias⟩ := h.bare_join hj
    simp only [Shape.Structured.Join.ofJoin, Shape.Structured.aliasName?, hname.bare_eq,
      map_bare_or_absent habsent halias]
    rcases (h.sides j hj).cases with ⟨hleft, hright⟩ | ⟨l, r, hleft, hright, hl, hr⟩
    · simp [hleft, hright]
    · simp [hleft, hright, Shape.Structured.Operand.ofRef, hl.ref?_structured, hr.ref?_structured]

/-! ## The flat shape -/

/-- The tree in the flat shape stands for the statement. -/
theorem statement_flat (h : s.Portable) (habsent : absent.bind Text.nonBlank? = none) :
    (Shape.Flat.Select.ofStatement absent s).statement = s := by
  have hprojected : (s.projected.map (Shape.Flat.Column.ofProjected absent)).map (fun c =>
      (⟨c.ref.table.bind Text.nonBlank?, c.ref.column, c.alias?.bind Text.nonBlank?⟩ :
        ProjectedColumn)) = s.projected := by
    rw [List.map_map]
    refine (List.map_congr_left fun p hp => ?_).trans (List.map_id _)
    obtain ⟨hbare, -, halias⟩ := h.projected p hp
    simp only [Function.comp_apply, Shape.Flat.Column.ofProjected,
      bind_nonBlank?_of_bare hbare.table, bind_or_absent habsent halias]
    rfl
  simp only [Shape.Flat.Select.statement, Shape.Flat.Select.ofStatement, hprojected]
  rw [h.foldl_sources_joins]
  case htable =>
    intro t ht d
    obtain ⟨hname, halias⟩ := h.bare_source ht
    simp only [Shape.Flat.Table.ofTable, hname.trimmed,
      bind_or_absent habsent fun a ha => ⟨(halias a ha).ne_empty, (halias a ha).trimmed⟩]
  case hjoin =>
    intro j hj d
    obtain ⟨hname, halias⟩ := h.bare_join hj
    simp only [Shape.Flat.Join.ofJoin, hname.trimmed,
      bind_or_absent habsent fun a ha => ⟨(halias a ha).ne_empty, (halias a ha).trimmed⟩]

end Statement.Portable

/-! ## Written forms -/

/-- A literal text is no null, so a comparison with it is read back from its written form. -/
theorem comparesNull_ofStatement (absent : Option String) (s : Statement) :
    (Shape.Grammar.Select.ofStatement absent s).comparesNull = false := by
  have hcompared : ∀ c : Condition, (Shape.Grammar.Expr.ofCondition c).comparesNull = false := by
    intro c
    rw [Shape.Grammar.Expr.ofCondition, Shape.Grammar.Expr.binary,
      Shape.Grammar.Expr.comparesNull_node]
    cases c.operator <;> rfl
  cases hcondition : s.condition with
  | none => simp [Shape.Grammar.Select.comparesNull, Shape.Grammar.Select.ofStatement, hcondition]
  | some c =>
      simp [Shape.Grammar.Select.comparesNull, Shape.Grammar.Select.ofStatement, hcondition,
        hcompared]

/-- The structured form of a condition is no null either. -/
theorem unlessNull_ofStatement (absent : Option String) (s : Statement) :
    Json.Fields.unlessNull (Shape.Structured.Select.ofStatement absent s).condition =
      (Shape.Structured.Select.ofStatement absent s).condition := by
  cases hcondition : s.condition <;>
    simp [Shape.Structured.Select.ofStatement, hcondition] <;> rfl

/-- A written tree in the grammar shape stands for what the tree stands for. -/
theorem statement_written_grammar (absent : Option String) (s : Statement) :
    (Tree.json (Shape.Grammar.Select.ofStatement absent s).toJson).statement =
      .ok (Shape.Grammar.Select.ofStatement absent s).statement := by
  have hkind : Text.equalFold (Shape.Grammar.Select.ofStatement absent s).kind "select" = true :=
    (by decide : Text.equalFold "select" "select" = true)
  rw [Tree.statement, Tree.recognize, Shape.Grammar.Select.recognize_toJson hkind]
  refine congrArg Except.ok ((Shape.Grammar.Select.statement_readBack _).trans ?_)
  rw [comparesNull_ofStatement, if_neg Bool.false_ne_true]

/-- So does one in the structured shape. -/
theorem statement_written_structured (absent : Option String) (s : Statement) :
    (Tree.json (Shape.Structured.Select.ofStatement absent s).toJson).statement =
      .ok (Shape.Structured.Select.ofStatement absent s).statement := by
  rw [Tree.statement, Tree.recognize, Shape.Structured.Select.recognize_toJson,
    unlessNull_ofStatement]
  rfl

/-- So does one in the flat shape. -/
theorem statement_written_flat (absent : Option String) (s : Statement) :
    (Tree.json (Shape.Flat.Select.ofStatement absent s).toJson).statement =
      .ok (Shape.Flat.Select.ofStatement absent s).statement := by
  have hroot : ∀ select : Shape.Flat.Select, Tree.hasGrammarRoot select.toJson = false ∧
      Tree.hasStructuredRoot select.toJson = false ∧ Tree.hasFlatRoot select.toJson = true := by
    simp [Tree.hasGrammarRoot, Tree.hasStructuredRoot, Tree.hasFlatRoot, Shape.Flat.Select.toJson,
      Json.get?]
  rw [Tree.statement, Tree.recognize, Tree.recognizeJson, (hroot _).1, (hroot _).2.1,
    (hroot _).2.2, if_neg Bool.false_ne_true, if_neg Bool.false_ne_true, if_pos rfl, Tree.readShape,
    Shape.Flat.Select.decode_toJson]
  rfl

/--
A portable statement can be written in any of the shapes: each written form stands for it, whether
the lack of an alias is written as null or as a blank text.
-/
theorem statement_of_shapes (h : s.Portable) (habsent : absent.bind Text.nonBlank? = none) :
    (Tree.json (Shape.Grammar.Select.ofStatement absent s).toJson).statement = .ok s ∧
      (Tree.json (Shape.Structured.Select.ofStatement absent s).toJson).statement = .ok s ∧
      (Tree.json (Shape.Flat.Select.ofStatement absent s).toJson).statement = .ok s := by
  refine ⟨?_, ?_, ?_⟩
  · rw [statement_written_grammar, h.statement_grammar habsent]
  · rw [statement_written_structured, h.statement_structured habsent]
  · rw [statement_written_flat, h.statement_flat habsent]

/-- A statement with two sources, a join with sides, one without, and a condition. -/
def ordersStatement : Statement where
  tables := [⟨"users", some "u"⟩, ⟨"plans", none⟩, ⟨"order items", some "o"⟩, ⟨"log", none⟩]
  joins := [⟨"order items", some "o", some ⟨some "u", "id"⟩, some ⟨some "o", "user_id"⟩⟩,
    ⟨"log", none, none, none⟩]
  projected := [⟨some "u", "name", none⟩, ⟨none, "total", some "sum of \"it\""⟩]
  condition := some ⟨⟨some "o", "status"⟩, .notEqual, "don't know"⟩

/-- Its three forms stand for it, with blank texts for the aliases that it lacks. -/
theorem ordersStatement_of_shapes : ordersStatement.Portable ∧
    (some " ").bind Text.nonBlank? = none ∧
    (Tree.json (Shape.Grammar.Select.ofStatement (some " ") ordersStatement).toJson).statement =
        .ok ordersStatement ∧
      (Tree.json
        (Shape.Structured.Select.ofStatement (some " ") ordersStatement).toJson).statement =
        .ok ordersStatement ∧
      (Tree.json (Shape.Flat.Select.ofStatement (some " ") ordersStatement).toJson).statement =
        .ok ordersStatement := by
  have hportable : ordersStatement.Portable := by decide +kernel
  have habsent : (some " ").bind Text.nonBlank? = none := by decide +kernel
  exact ⟨hportable, habsent, statement_of_shapes hportable habsent⟩

end Reading

end JoinGraph
