import JoinGraph.Proofs.PlainReading
import JoinGraph.Proofs.ShapeAgreement
import JoinGraph.Session

/-!
# Plain statements read by the grammar

A text may be read by a grammar, which yields a tree, or by pattern, which yields clauses.  The
tree of a draft has its names, factors, joins and values (`Draft.IsTree`), whoever built it.  Its
outline says what the draft says, and so does what reading by pattern finds; neither needs the
aliases to be apart.

## Main results

* `Draft.statement_outline`, `Draft.statement_flat` — what a draft says, read off either form.
* `statement_outline_eq_read` — both readers agree on every draft and every layout of it.
-/

namespace JoinGraph.Plain

open Shape.Grammar (Expr)

/-! ## What a draft says -/

namespace Draft

/-- The column of the SELECT list that is named. -/
def Column.projected (c : Column) : ProjectedColumn :=
  ⟨c.column.ref.table, c.column.ref.column, c.alias?.map (·.name.text)⟩

/-- The table that is named. -/
def Table.ref (t : Table) : TableRef := ⟨t.name.text, t.alias?.map (·.name.text)⟩

/-- The join that is named. -/
def Join.join (j : Join) : JoinGraph.Join :=
  ⟨j.table.name.text, j.table.alias?.map (·.name.text), j.on?.map (·.1.ref), j.on?.map (·.2.ref)⟩

/-- What a draft says: its tables are added one by one, and clashing aliases are dropped. -/
def statement (d : Draft) : Statement :=
  let tables := (d.first :: d.others).foldl
    (fun s t => s.pushTable t.ref.name t.ref.alias?) Statement.empty
  let joined := d.joins.foldl
    (fun s j => s.pushJoin j.join.table j.join.alias? j.join.left j.join.right) tables
  { joined with
    projected := d.columns.map Column.projected
    condition := d.filter?.map Filter.condition }

end Draft

theorem alias_isBareName {alias? : Option Draft.Alias} :
    ∀ a ∈ alias?.map (·.name.text), IsBareName a := by
  intro a ha
  obtain ⟨declared, -, rfl⟩ := Option.map_eq_some_iff.1 ha
  exact declared.name.isBareName

/-- What is read of a draft by pattern says what the draft says. -/
theorem Draft.statement_flat (d : Draft) : d.flat.statement = d.statement := by
  have hcolumn : ∀ c : Draft.Column, (⟨c.flat.ref.table.bind Text.nonBlank?, c.flat.ref.column,
      c.flat.alias?.bind Text.nonBlank?⟩ : ProjectedColumn) = c.projected := fun c => by
    simp only [Column.flat, Column.projected, ColumnName.ref, bind_nonBlank?_text,
      bind_nonBlank?_of_bare alias_isBareName]
  simp only [Shape.Flat.Select.statement, flat, statement, List.foldl_map, Table.flat, Table.ref,
    Join.flat, Join.join, Identifier.trim_text,
      bind_nonBlank?_of_bare alias_isBareName, List.map_map,
    Function.comp_def, hcolumn]

/-! ## Trees -/

/-- The path of a column: schemas may stand before its qualifier. -/
inductive ColumnName.IsPath : ColumnName → List Sql.Ident → Prop where
  | column {n : Identifier} {i : Sql.Ident} (h : i.value = n.text) : IsPath ⟨none, n⟩ [i]
  | qualified {q n : Identifier} {t i : Sql.Ident} (schemas : List Sql.Ident)
      (htable : t.value = q.text) (hcolumn : i.value = n.text) :
      IsPath ⟨some q, n⟩ (schemas ++ [t, i])

/-- The equality of two columns. -/
def IsEquality (sides : ColumnName × ColumnName) (e : Sql.Expr) : Prop :=
  ∃ left right, sides.1.IsPath left ∧ sides.2.IsPath right ∧
    e = .binary "=" (.column left) (.column right)

/-- A comparison; `<>` is a sign of inequality, too. -/
def Filter.IsComparison (f : Filter) (e : Sql.Expr) : Prop :=
  ∃ path sign, f.column.IsPath path ∧
    (sign = f.operator.sign ∨ f.operator = .notEqual ∧ sign = "<>") ∧
    e = .binary sign (.column path) (.literal (.string .single f.literal.text))

namespace Draft

/-- An entry of the SELECT list. -/
def Column.IsItem (c : Column) (item : Sql.Item) : Prop :=
  ∃ path alias?, c.column.IsPath path ∧ alias?.map Sql.Ident.value = c.alias?.map (·.name.text) ∧
    item = .expr (.column path) alias?

/-- A named table, behind any schemas. -/
def Table.IsFactor (t : Table) (f : Sql.Factor) : Prop :=
  (∃ schemas i, i.value = t.name.text ∧ f.origin = .table (schemas ++ [.ident i])) ∧
    f.alias?.map (·.name.value) = t.alias?.map (·.name.text)

/-- A joined table, with the equality of its ON condition if it has one. -/
def Join.IsJoin (j : Join) (join : Sql.Join) : Prop :=
  j.table.IsFactor join.factor ∧ Option.Rel IsEquality j.on? join.condition?

/-- The trees of a draft.  A SELECT list without columns is a wildcard; what is joined is joined
to the last entry of the FROM list. -/
structure IsTree (d : Draft) (select : Sql.Select) : Prop where
  wildcard : d.columns = [] → ∃ options, select.items = [.wildcard options]
  items : d.columns ≠ [] → List.Forall₂ Column.IsItem d.columns select.items
  factors : List.Forall₂ Table.IsFactor (d.first :: d.others) (select.sources.map (·.factor))
  joins : List.Forall₂ Join.IsJoin d.joins (select.sources.flatMap (·.joins))
  joins_last : ∀ source ∈ select.sources.dropLast, source.joins = []
  condition : Option.Rel Filter.IsComparison d.filter? select.condition?

end Draft

/-! ## Names -/

theorem ColumnName.isBare (c : ColumnName) : c.ref.IsBare where
  column := c.name.isBareName
  table t ht := by
    obtain ⟨q, -, rfl⟩ := Option.map_eq_some_iff.1 ht
    exact q.isBareName

/-! ## Outlines of trees -/

theorem ColumnName.IsPath.outline {c : ColumnName} {path : List Sql.Ident} (h : c.IsPath path) :
    Sql.pathOutline path = Expr.ofRef c.ref := by
  cases h with
  | column h => simp [Sql.pathOutline, Expr.ofRef, ref, h]
  | qualified schemas htable hcolumn =>
      simp [Sql.pathOutline, Expr.ofRef, ref, htable, hcolumn]

theorem IsEquality.outline {sides : ColumnName × ColumnName} {e : Sql.Expr}
    (h : IsEquality sides e) : e.outline = Expr.ofSides sides.1.ref sides.2.ref := by
  obtain ⟨left, right, hleft, hright, rfl⟩ := h
  rw [Sql.Expr.outline, Sql.Expr.outline, Sql.Expr.outline, hleft.outline, hright.outline,
    Expr.ofSides]

theorem Filter.IsComparison.comparison? {f : Filter} {e : Sql.Expr} (h : f.IsComparison e)
    (hliteral : Name.unquote f.literal.text = f.literal.text) :
    e.outline.comparison? = some f.condition := by
  obtain ⟨path, sign, hpath, hsign, rfl⟩ := h
  rw [Sql.Expr.outline, Sql.Expr.outline, Sql.Expr.outline, hpath.outline, Sql.Literal.outline]
  exact comparison?_binary (c := f.condition) f.column.isBare hliteral hsign

namespace Draft

open Shape.Grammar (Source)

theorem Column.IsItem.outline? {c : Column} {item : Sql.Item} (h : c.IsItem item) :
    item.outline?.bind Shape.Grammar.Column.projected? = some c.projected := by
  obtain ⟨path, alias?, hpath, halias, rfl⟩ := h
  have houtline : (Sql.Item.expr (.column path) alias?).outline? =
      some (Shape.Grammar.Column.ofProjected none c.projected) := by
    rw [Sql.Item.outline?, Sql.Expr.outline, hpath.outline, halias,
      Shape.Grammar.Column.ofProjected, Option.or_none]
    rfl
  rw [houtline, Option.bind_some]
  exact projected?_ofProjected rfl c.column.isBare c.column.name.text_ne_star fun a ha =>
    ⟨(alias_isBareName a ha).ne_empty, (alias_isBareName a ha).trimmed⟩

/-- The outline of a factor names its table; only the schema is left open. -/
theorem Table.IsFactor.outline? {t : Table} {f : Sql.Factor} (h : t.IsFactor f)
    (join : Option String) (on : Option Expr) : ∃ db, f.outline? join on =
      some ⟨db, t.ref.name, t.ref.alias?.or none, join, on⟩ := by
  obtain ⟨⟨schemas, i, hi, horigin⟩, halias⟩ := h
  have hkeyword : (Sql.NamePart.ident i).isClauseKeyword = false := by
    obtain ⟨value, quote?⟩ := i
    cases quote? with
    | none => exact (congrArg Name.isClauseKeyword hi).trans t.name.not_clauseKeyword
    | some quote => rfl
  refine ⟨schemas.reverse.head?.map Sql.NamePart.outline, ?_⟩
  simp [Sql.Factor.outline?, horigin, hkeyword, Sql.NamePart.outline, hi, halias, Table.ref]

/-- The outline of a factor adds its table. -/
theorem Table.IsFactor.addTo {t : Table} {f : Sql.Factor} (h : t.IsFactor f) :
    ∃ source, f.outline? none none = some source ∧
      ∀ s, source.addTo s = s.pushTable t.ref.name t.ref.alias? := by
  have habsent : (none : Option String).bind Text.nonBlank? = none := rfl
  obtain ⟨db, houtline⟩ := h.outline? none none
  exact ⟨_, houtline, addTo_ofTable habsent t.name.isBareName alias_isBareName⟩

theorem Join.sidesBare (j : Join) : j.join.SidesBare where
  both := by simp [join]
  left c hc := by
    obtain ⟨sides, -, rfl⟩ := Option.map_eq_some_iff.1 hc
    exact sides.1.isBare
  right c hc := by
    obtain ⟨sides, -, rfl⟩ := Option.map_eq_some_iff.1 hc
    exact sides.2.isBare

/-- The outline of a joined factor adds its table and its join. -/
theorem Join.IsJoin.addTo {j : Join} {join : Sql.Join} (h : j.IsJoin join) :
    ∃ source, join.outline? = some source ∧
      ∀ s, source.addTo s = s.pushJoin j.join.table j.join.alias? j.join.left j.join.right := by
  obtain ⟨hfactor, hon⟩ := h
  have hcondition : join.condition?.map Sql.Expr.outline =
      j.join.left.bind fun l => j.join.right.map fun r => Expr.ofSides l r := by
    obtain ⟨table, on?⟩ := j
    generalize join.condition? = condition? at hon
    cases hon with
    | none => rfl
    | some h => simp [Join.join, h.outline]
  obtain ⟨db, houtline⟩ := hfactor.outline? (some join.kind.label)
    (join.condition?.map Sql.Expr.outline)
  have habsent : (none : Option String).bind Text.nonBlank? = none := rfl
  refine ⟨_, houtline, fun s => ?_⟩
  rw [hcondition]
  exact addTo_ofJoin habsent j.table.name.isBareName alias_isBareName j.sidesBare s

/-! ## Statements of trees -/

/-- Joins stand at the last entry, so all factors of the FROM list come before all joined ones. -/
theorem flatMap_outlines {sources : List Sql.Source}
    (h : ∀ source ∈ sources.dropLast, source.joins = []) :
    sources.flatMap Sql.Source.outlines =
      (sources.map (·.factor)).filterMap (·.outline? none none) ++
        (sources.flatMap (·.joins)).filterMap Sql.Join.outline? := by
  induction sources with
  | nil => rfl
  | cons source sources ih =>
      cases sources with
      | nil =>
          cases houtline : source.factor.outline? none none <;> simp [Sql.Source.outlines, houtline]
      | cons next sources =>
          rw [List.dropLast_cons_cons] at h
          have hjoins : source.joins = [] := h source List.mem_cons_self
          rw [List.flatMap_cons, ih fun s hs => h s (List.mem_cons_of_mem _ hs)]
          cases houtline : source.factor.outline? none none <;>
            simp [Sql.Source.outlines, hjoins, houtline]

/-- Outlines are added as what they stand for. -/
theorem foldl_outlines {α β : Type} {outline? : α → Option Source}
    {push : Statement → β → Statement} {trees : List α} {entries : List β}
    (h : List.Forall₂ (fun e tree => ∃ source, outline? tree = some source ∧
      ∀ s, source.addTo s = push s e) entries trees) (s : Statement) :
    (trees.filterMap outline?).foldl Source.addTo s = entries.foldl push s := by
  induction h generalizing s with
  | nil => rfl
  | cons h _ ih =>
      obtain ⟨source, houtline, hadd⟩ := h
      rw [List.filterMap_cons_some houtline, List.foldl_cons, hadd, ih, List.foldl_cons]

theorem filterMap_projected? {columns : List Column} {items : List Sql.Item}
    (h : List.Forall₂ Column.IsItem columns items) :
    (items.filterMap Sql.Item.outline?).filterMap Shape.Grammar.Column.projected? =
      columns.map Column.projected := by
  rw [List.filterMap_filterMap]
  exact filterMap_of_forall₂ h fun _ _ hitem => hitem.outline?

/-- The outline of a SELECT list projects its columns. -/
theorem IsTree.projected {d : Draft} {select : Sql.Select} (h : d.IsTree select) :
    select.outline.statement.projected = d.columns.map Column.projected := by
  by_cases hcolumns : d.columns = []
  · obtain ⟨options, hitems⟩ := h.wildcard hcolumns
    simp [Shape.Grammar.Select.statement, Sql.Select.outline, hitems, Sql.itemsOutline, hcolumns]
  · have hitems := h.items hcolumns
    have hlist :
        Sql.itemsOutline select.items = .list (select.items.filterMap Sql.Item.outline?) := by
      rw [Sql.itemsOutline.eq_def]
      split
      · next options heq =>
          rw [heq] at hitems
          obtain ⟨c, rest, ⟨path, alias?, -, -, hexpr⟩, -⟩ := List.forall₂_cons_right_iff.1 hitems
          cases hexpr
      · rfl
    rw [← filterMap_projected? hitems]
    simp only [Shape.Grammar.Select.statement, Sql.Select.outline, hlist]

/-- The outline of a condition is read as the comparison. -/
theorem IsTree.condition_outline {d : Draft} {select : Sql.Select} (h : d.IsTree select)
    (hliteral : ∀ f ∈ d.filter?, Name.unquote f.literal.text = f.literal.text) :
    (select.condition?.map Sql.Expr.outline).bind Expr.comparison? =
      d.filter?.map Filter.condition := by
  obtain ⟨columns, first, others, joins, filter?⟩ := d
  have hrel : Option.Rel Filter.IsComparison filter? select.condition? := h.condition
  generalize select.condition? = condition? at hrel
  cases hrel with
  | none => rfl
  | some hrel =>
      rw [Option.map_some, Option.bind_some]
      exact hrel.comparison? (hliteral _ rfl)

/-- The outline of a tree of a draft says what the draft says. -/
theorem statement_outline {d : Draft} {select : Sql.Select} (h : d.IsTree select)
    (hliteral : ∀ f ∈ d.filter?, Name.unquote f.literal.text = f.literal.text) :
    select.outline.statement = d.statement := by
  have hsources : (select.sources.flatMap Sql.Source.outlines).foldl Source.addTo Statement.empty =
      d.joins.foldl (fun s j => s.pushJoin j.join.table j.join.alias? j.join.left j.join.right)
        ((d.first :: d.others).foldl (fun s t => s.pushTable t.ref.name t.ref.alias?)
          Statement.empty) := by
    rw [flatMap_outlines h.joins_last, List.foldl_append,
      foldl_outlines (h.factors.imp fun _ _ hfactor => hfactor.addTo),
      foldl_outlines (h.joins.imp fun _ _ hjoin => hjoin.addTo)]
  have hstatement : select.outline.statement =
      { (select.sources.flatMap Sql.Source.outlines).foldl Source.addTo Statement.empty with
        projected := select.outline.statement.projected
        condition := (select.condition?.map Sql.Expr.outline).bind Expr.comparison? } := rfl
  rw [hstatement, hsources, h.projected, h.condition_outline hliteral]
  rfl

end Draft

/-! ## A draft with a tree -/

/-- A draft with aliases of each kind; one of them is the name of its own table. -/
def billsDraft : Draft where
  columns := [⟨⟨some (.mk "c"), .mk "code"⟩, some ⟨.mk "label", false⟩⟩]
  first := ⟨.mk "bills", some ⟨.mk "bills", true⟩⟩
  others := [⟨.mk "towns", none⟩]
  joins := [⟨⟨.mk "clients", some ⟨.mk "c", false⟩⟩,
    some (⟨some (.mk "c"), .mk "town"⟩, ⟨some (.mk "towns"), .mk "code"⟩)⟩]
  filter? := some ⟨⟨none, .mk "kind"⟩, .notEqual, .mk "open; from (a"⟩

/-- A layout of the draft. -/
def billsText : String :=
  "Select [c].code label FrOm s.bills AS bills,towns\n" ++
    "JOIN \x60clients\x60 c ON c.town=towns.code WHERE kind != 'open; from (a' "

/-- The tree that the grammar builds of the layout. -/
def billsTree : Sql.Select where
  items := [.expr (.column [⟨"c", some '['⟩, ⟨"code", none⟩]) (some ⟨"label", none⟩)]
  sources := [
    ⟨⟨.table [.ident ⟨"s", none⟩, .ident ⟨"bills", none⟩], "", some ⟨⟨"bills", none⟩, []⟩, ""⟩, []⟩,
    ⟨⟨.table [.ident ⟨"towns", none⟩], "", none, ""⟩,
      [⟨false, .join, ⟨.table [.ident ⟨"clients", some '\x60'⟩], "", some ⟨⟨"c", none⟩, []⟩, ""⟩,
        .on (.binary "=" (.column [⟨"c", none⟩, ⟨"town", none⟩])
          (.column [⟨"towns", none⟩, ⟨"code", none⟩]))⟩]⟩]
  condition? := some (.binary "<>" (.column [⟨"kind", none⟩])
    (.literal (.string .single "open; from (a")))
  text := "SELECT [c].code AS label FROM s.bills AS bills, towns JOIN \x60clients\x60 AS c " ++
    "ON c.town = towns.code WHERE kind <> 'open; from (a'"

deriving instance DecidableEq for Sql.Expr, Sql.Alias, Sql.NamePart, Sql.Origin, Sql.Factor,
  Sql.JoinKind, Sql.JoinConstraint, Sql.Join, Sql.Source, Sql.Item, Sql.Select,
    Sql.Query, Sql.Statement

theorem parseScript_billsText : (Sql.parseScript .sqlite billsText).toOption =
    some [.query ⟨some billsTree, billsTree.text⟩] := by
  decide +kernel

theorem layout_billsText : Layout billsDraft.tokens billsText.toList := by
  have keyword : ∀ {k : Keyword} (s : String), s.toList.map Text.asciiLower = k.text.toList →
      Spelled (.keyword k) s.toList := fun _ h => .keyword h
  obtain ⟨text, h, heq⟩ : ∃ text, Layout billsDraft.tokens text ∧ billsText = String.ofList text :=
    ⟨_, .of_token (keyword "Select" (by decide)) (fun _ => rfl) <|
      .of_blank ' ' rfl (.qualified [] (.cons .bracketed (.one .bare))) (fun _ => rfl) <|
      .of_blank ' ' rfl (.name .bare) (fun _ => rfl) <|
      .of_blank ' ' rfl (keyword "FrOm" (by decide)) (fun _ => rfl) <|
      .of_blank ' ' rfl (.table [.mk "s"] (.cons .bare (.one .bare))) (fun _ => rfl) <|
      .of_blank ' ' rfl (keyword "AS" (by decide)) (fun _ => rfl) <|
      .of_blank ' ' rfl (.name .bare) (fun _ => rfl) <|
      .of_token .comma (fun h => absurd h (by decide)) <|
      .of_token (.table [] (.one .bare)) (fun _ => rfl) <|
      .of_blank '\n' rfl (keyword "JOIN" (by decide)) (fun _ => rfl) <|
      .of_blank ' ' rfl (.table [] (.one (.quoted (.inr rfl)))) (fun _ => rfl) <|
      .of_blank ' ' rfl (.name .bare) (fun _ => rfl) <|
      .of_blank ' ' rfl (keyword "ON" (by decide)) (fun _ => rfl) <|
      .of_blank ' ' rfl (.qualified [] (.cons .bare (.one .bare))) (fun _ => rfl) <|
      .of_token (.operator .equal) (fun h => absurd h (by decide)) <|
      .of_token (.qualified [] (.cons .bare (.one .bare))) (fun _ => rfl) <|
      .of_blank ' ' rfl (keyword "WHERE" (by decide)) (fun _ => rfl) <|
      .of_blank ' ' rfl (.column .bare) (fun _ => rfl) <|
      .of_blank ' ' rfl (.operator .notEqual) (fun h => absurd h (by decide)) <|
      .of_blank ' ' rfl (.literal _) (fun _ => rfl) <|
      @Layout.nil [' '] (List.all_eq_true.1 rfl), by decide +kernel⟩
  rwa [heq, String.toList_ofList]

theorem isTree_billsTree : billsDraft.IsTree billsTree where
  wildcard h := absurd h (List.cons_ne_nil _ _)
  items _ := .cons ⟨_, _, .qualified [] rfl rfl, rfl, rfl⟩ .nil
  factors := .cons ⟨⟨[.ident ⟨"s", none⟩], _, rfl, rfl⟩, rfl⟩ (.cons ⟨⟨[], _, rfl, rfl⟩, rfl⟩ .nil)
  joins := .cons ⟨⟨⟨[], _, rfl, rfl⟩, rfl⟩,
    .some ⟨_, _, .qualified [] rfl rfl, .qualified [] rfl rfl, rfl⟩⟩ .nil
  joins_last := by simp [billsTree]
  condition := .some ⟨_, "<>", .column rfl, .inr ⟨rfl, rfl⟩, rfl⟩

end JoinGraph.Plain

namespace JoinGraph

/--
Whatever tree a grammar builds of a plain text, if it has the names, factors, joins and the value
of the text, then its outline and what is read by pattern say the same, and the same graph is
drawn.
-/
theorem statement_outline_eq_read (d : Plain.Draft) {text : String} {select : Sql.Select}
    (hlayout : Plain.Layout d.tokens text.toList) (htree : d.IsTree select)
    (hliteral : ∀ f ∈ d.filter?, Name.unquote f.literal.text = f.literal.text) :
    (Tree.shaped (.grammar select.outline)).statement = .ok d.statement ∧
      (Tree.shaped (.flat (Pattern.read text))).statement = .ok d.statement ∧
      ∀ o, (Tree.shaped (.grammar select.outline)).graph o =
        (Tree.shaped (.flat (Pattern.read text))).graph o := by
  have hgrammar : (Tree.shaped (.grammar select.outline)).statement = .ok d.statement :=
    congrArg Except.ok (Plain.Draft.statement_outline htree hliteral)
  have hpattern : (Tree.shaped (.flat (Pattern.read text))).statement = .ok d.statement := by
    rw [hlayout.read_draft]
    exact congrArg Except.ok d.statement_flat
  refine ⟨hgrammar, hpattern, fun o => ?_⟩
  rw [Tree.graph, Tree.graph, hgrammar, hpattern]

/-- The grammar builds such a tree of a text with aliases of each kind. -/
theorem statement_outline_eq_read_bills :
    (Sql.parseScript .sqlite Plain.billsText).toOption =
        some [.query ⟨some Plain.billsTree, Plain.billsTree.text⟩] ∧
      Plain.Layout Plain.billsDraft.tokens Plain.billsText.toList ∧
      Plain.billsDraft.IsTree Plain.billsTree ∧
      (∀ f ∈ Plain.billsDraft.filter?, Name.unquote f.literal.text = f.literal.text) ∧
      (Tree.shaped (.grammar Plain.billsTree.outline)).statement =
        .ok Plain.billsDraft.statement ∧
      (Tree.shaped (.flat (Pattern.read Plain.billsText))).statement =
        .ok Plain.billsDraft.statement ∧
      ∀ o, (Tree.shaped (.grammar Plain.billsTree.outline)).graph o =
        (Tree.shaped (.flat (Pattern.read Plain.billsText))).graph o := by
  have hliteral : ∀ f ∈ Plain.billsDraft.filter?,
      Name.unquote f.literal.text = f.literal.text := by
    decide +kernel
  exact ⟨Plain.parseScript_billsText, Plain.layout_billsText, Plain.isTree_billsTree, hliteral,
    statement_outline_eq_read Plain.billsDraft Plain.layout_billsText Plain.isTree_billsTree
      hliteral⟩

end JoinGraph
