import JoinGraph.Proofs.PlainClauses
import JoinGraph.Proofs.BareName
import JoinGraph.Proofs.Registration
import JoinGraph.Shape

/-!
# Plain statements are read back

Reading by pattern finds in every layout of a plain statement what was written, and what is found
stands for the statement.

## Main results

* `Layout.columns`, `Layout.tables`, `Layout.joins`, `Layout.condition?` — the clauses.
* `statement_read_layout` — the statement.
-/

namespace JoinGraph.Plain

/-! ## What the readers find -/

/-- A column of the SELECT list as it is read. -/
def Column.flat (c : Column) : Shape.Flat.Column := ⟨c.column.ref, c.alias?.map Identifier.text⟩

/-- A table as it is read. -/
def Table.flat (t : Table) : Shape.Flat.Table := ⟨t.name.text, t.alias?.map Identifier.text⟩

/-- A join as it is read. -/
def Join.flat (j : Join) : Shape.Flat.Join :=
  ⟨j.table.name.text, j.table.alias?.map Identifier.text, j.on?.map (·.1.ref), j.on?.map (·.2.ref)⟩

/-! ## Clauses -/

section Clauses

variable {s : Select} {text : List Char}

theorem Layout.of_select (h : Layout s.tokens text) : Layout s.draft.tokens text :=
  s.tokens_draft ▸ h

theorem alias_marked (alias? : Option Identifier) :
    (alias?.map Identifier.marked).map (·.name.text) = alias?.map Identifier.text := by
  cases alias? <;> rfl

/-- The columns are found between `select` and `from`. -/
theorem Layout.columns (h : Layout s.tokens text) :
    Pattern.columns text = s.columns.map Column.flat := by
  have hflat : ∀ c : Column, c.draft.flat = c.flat := fun c => by
    rw [Column.draft, Draft.Column.flat, alias_marked, Column.flat]
  rw [h.of_select.draft_columns]
  simp [Select.draft, Function.comp_def, hflat]

theorem Table.flat_draft (t : Table) : t.draft.flat = t.flat := by
  rw [draft, Draft.Table.flat, alias_marked, flat]

/-- The tables are found behind the only `from`. -/
theorem Layout.tables (h : Layout s.tokens text) :
    Pattern.tables text = (s.first :: s.others).map Table.flat := by
  rw [h.of_select.draft_tables]
  simp [Select.draft, Function.comp_def, Table.flat_draft]

/-- The joins are found. -/
theorem Layout.joins (h : Layout s.tokens text) : Pattern.joins text = s.joins.map Join.flat := by
  have hflat : ∀ j : Join, j.draft.flat = j.flat := fun j => by
    rw [Join.draft, Draft.Join.flat, Table.draft, alias_marked, Join.flat]
  rw [h.of_select.draft_joins]
  simp [Select.draft, Function.comp_def, hflat]

/-- The comparison is found behind `where`. -/
theorem Layout.condition? (h : Layout s.tokens text) :
    Pattern.condition? text = s.filter?.map Filter.condition :=
  h.of_select.draft_condition?

end Clauses

/-! ## Statements -/

section Statements

theorem Identifier.trim_text (n : Identifier) : Text.trim n.text = n.text := by
  rw [Text.trim, show Text.trimChars n.text.toList = n.text.toList from n.trimChars_chars,
    String.ofList_toList]

/-- An identifier is a name that every reader keeps. -/
theorem Identifier.isBareName (n : Identifier) : IsBareName n.text where
  ne_empty := n.text_ne_empty
  trimmed := n.trim_text
  undelimited _ hc := (n.identifierPart hc).bare
  undotted hdot := (n.identifierPart hdot).ne.1 rfl

theorem bind_nonBlank?_text (alias? : Option Identifier) :
    (alias?.map Identifier.text).bind Text.nonBlank? = alias?.map Identifier.text := by
  refine bind_nonBlank?_of_bare fun a ha => ?_
  obtain ⟨n, -, rfl⟩ := Option.map_eq_some_iff.1 ha
  exact n.isBareName

/-- The tables of a plain statement do not clash. -/
theorem Select.registrable (s : Select) : Statement.Registrable s.statement.tables where
  named := by
    intro t ht
    obtain ⟨table, -, rfl⟩ := List.mem_map.1 ht
    exact table.name.isBareName.not_blank
  alias_ne := by
    intro t ht a ha
    obtain ⟨table, -, rfl⟩ := List.mem_map.1 ht
    obtain ⟨n, hn, rfl⟩ := Option.map_eq_some_iff.1 ha
    exact ⟨n.text_ne_empty, table.alias_ne n hn⟩
  aliases_nodup := by
    have haliases : s.statement.tables.filterMap TableRef.alias? = declaredAliases s.tables := by
      simp [statement, declaredAliases, List.filterMap_map, Function.comp_def, Table.ref]
    rw [haliases]
    exact s.nodup_aliases

/-- The tables of the FROM list come first, and the joined ones behind them. -/
theorem Select.tables_statement (s : Select) : s.statement.tables =
    (s.first :: s.others).map Table.ref ++ s.statement.joins.map JoinGraph.Join.tableRef := by
  simp [statement, tables, Join.join, JoinGraph.Join.tableRef, Table.ref, Function.comp_def]

/-- What is read of a plain statement stands for the statement. -/
theorem statement_flat (s : Select) :
    Shape.Flat.Select.statement ⟨s.columns.map Column.flat, (s.first :: s.others).map Table.flat,
      s.joins.map Join.flat, s.filter?.map Filter.condition⟩ = s.statement := by
  have hfree : Statement.Registrable ([] ++ ((s.first :: s.others).map Table.ref ++
      s.statement.joins.map JoinGraph.Join.tableRef)) := s.tables_statement ▸ s.registrable
  have htable : List.Forall₂ (fun (e : Shape.Flat.Table) (t : TableRef) => ∀ s : Statement,
      s.pushTable (Text.trim e.table) (e.alias?.bind Text.nonBlank?) = s.pushTable t.name t.alias?)
      ((s.first :: s.others).map Table.flat) ((s.first :: s.others).map Table.ref) := by
    simp only [List.forall₂_map_left_iff, List.forall₂_map_right_iff, List.forall₂_same]
    intro t _ s
    simp only [Table.flat, Table.ref, t.name.trim_text, bind_nonBlank?_text]
  have hjoin : List.Forall₂ (fun (e : Shape.Flat.Join) (j : JoinGraph.Join) => ∀ s : Statement,
      s.pushJoin (Text.trim e.table) (e.alias?.bind Text.nonBlank?) e.left e.right =
        s.pushJoin j.table j.alias? j.left j.right)
      (s.joins.map Join.flat) s.statement.joins := by
    simp only [Select.statement, List.forall₂_map_left_iff, List.forall₂_map_right_iff,
      List.forall₂_same]
    intro j _ s
    simp only [Join.flat, Join.join, j.table.name.trim_text, bind_nonBlank?_text]
  have htables := Statement.foldl_tables (s := ⟨[], [], [], none⟩) htable hfree
  have hjoins := Statement.foldl_joins (s := ⟨(s.first :: s.others).map Table.ref, [], [], none⟩)
    hjoin hfree
  have hcolumn : ∀ c : Column, (⟨c.flat.ref.table.bind Text.nonBlank?, c.flat.ref.column,
      c.flat.alias?.bind Text.nonBlank?⟩ : ProjectedColumn) = c.projected := fun c => by
    simp only [Column.flat, ColumnName.ref, Column.projected, bind_nonBlank?_text]
  rw [Shape.Flat.Select.statement]
  simp only [Statement.empty, htables, List.nil_append, hjoins, List.map_map, Function.comp_def,
    hcolumn]
  simp [Select.statement, Select.tables, Join.join, JoinGraph.Join.tableRef, Table.ref]

end Statements

/-! ## A layout with one spelling of each kind -/

/-- A statement with each kind of clause. -/
def mixedSelect : Select where
  columns := [⟨⟨some (.mk "o"), .mk "id"⟩, some (.mk "n")⟩, ⟨⟨none, .mk "total"⟩, none⟩]
  first := .mk (.mk "orders") (some (.mk "o"))
  others := [.mk (.mk "regions") none]
  joins := [⟨.mk (.mk "users") none,
    some (⟨some (.mk "o"), .mk "user_id"⟩, ⟨some (.mk "users"), .mk "id"⟩)⟩]
  filter? := some ⟨⟨none, .mk "state"⟩, .notEqual, .mk "from (select;  and--"⟩

/-- A layout of the statement. -/
def mixedText : String :=
  "Select [o].id\tAS \"n\" ,total FrOm s.orders as o,regions\nJOIN x.\x60users\x60 ON " ++
    "o.user_id=users.id WHERE state <>'from (select;  and--' "

theorem layout_mixedText : Layout mixedSelect.tokens mixedText.toList := by
  have keyword : ∀ {k : Keyword} (s : String), s.toList.map Text.asciiLower = k.text.toList →
      Spelled (.keyword k) s.toList := fun _ h => .keyword h
  obtain ⟨text, h, heq⟩ : ∃ text, Layout mixedSelect.tokens text ∧ mixedText = String.ofList text :=
    ⟨_, .of_token (keyword "Select" (by decide)) (fun _ => rfl) <|
      .of_blank ' ' rfl (.qualified [] (.cons .bracketed (.one .bare))) (fun _ => rfl) <|
      .of_blank '\t' rfl (keyword "AS" (by decide)) (fun _ => rfl) <|
      .of_blank ' ' rfl (.name (.quoted (.inl rfl))) (fun _ => rfl) <|
      .of_blank ' ' rfl .comma nofun <|
      .of_token (.column .bare) (fun _ => rfl) <|
      .of_blank ' ' rfl (keyword "FrOm" (by decide)) (fun _ => rfl) <|
      .of_blank ' ' rfl (.table [.mk "s"] (.cons .bare (.one .bare))) (fun _ => rfl) <|
      .of_blank ' ' rfl (keyword "as" (by decide)) (fun _ => rfl) <|
      .of_blank ' ' rfl (.name .bare) (fun _ => rfl) <|
      .of_token .comma nofun <|
      .of_token (.table [] (.one .bare)) (fun _ => rfl) <|
      .of_blank '\n' rfl (keyword "JOIN" (by decide)) (fun _ => rfl) <|
      .of_blank ' ' rfl (.table [.mk "x"] (.cons .bare (.one (.quoted (.inr rfl)))))
        (fun _ => rfl) <|
      .of_blank ' ' rfl (keyword "ON" (by decide)) (fun _ => rfl) <|
      .of_blank ' ' rfl (.qualified [] (.cons .bare (.one .bare))) (fun _ => rfl) <|
      .of_token (.operator .equal) nofun <|
      .of_token (.qualified [] (.cons .bare (.one .bare))) (fun _ => rfl) <|
      .of_blank ' ' rfl (keyword "WHERE" (by decide)) (fun _ => rfl) <|
      .of_blank ' ' rfl (.column .bare) (fun _ => rfl) <|
      .of_blank ' ' rfl .unequal nofun <|
      .of_token (.literal _) (fun _ => rfl) <|
      @Layout.nil [' '] (List.all_eq_true.1 rfl), by decide +kernel⟩
  rwa [heq, String.toList_ofList]

end JoinGraph.Plain

namespace JoinGraph

/--
A plain statement is read back from any of its layouts: the statement of what reading by pattern
finds is the statement that was written.
-/
theorem statement_read_layout (s : Plain.Select) {text : String}
    (h : Plain.Layout s.tokens text.toList) :
    (Tree.shaped (.flat (Pattern.read text))).statement = .ok s.statement := by
  have hprepare : Plain.Layout s.tokens (Pattern.prepare text.toList) :=
    h.prepare (List.cons_ne_nil _ _)
  have hread : Pattern.read text = ⟨s.columns.map Plain.Column.flat,
      (s.first :: s.others).map Plain.Table.flat, s.joins.map Plain.Join.flat,
      s.filter?.map Plain.Filter.condition⟩ := by
    rw [Pattern.read, Pattern.readChars, hprepare.columns, hprepare.tables, hprepare.joins,
      hprepare.condition?]
  rw [hread]
  exact congrArg Except.ok (Plain.statement_flat s)

/-- Delimiters, schemas, any blanks, and keywords in a literal do not matter. -/
theorem statement_read_mixedText :
    Plain.Layout Plain.mixedSelect.tokens Plain.mixedText.toList ∧
      (Tree.shaped (.flat (Pattern.read Plain.mixedText))).statement = .ok
        { tables := [⟨"orders", some "o"⟩, ⟨"regions", none⟩, ⟨"users", none⟩]
          joins := [⟨"users", none, some ⟨some "o", "user_id"⟩, some ⟨some "users", "id"⟩⟩]
          projected := [⟨some "o", "id", some "n"⟩, ⟨none, "total", none⟩]
          condition := some ⟨⟨none, "state"⟩, .notEqual, "from (select;  and--"⟩ } :=
  ⟨Plain.layout_mixedText, statement_read_layout Plain.mixedSelect Plain.layout_mixedText⟩

end JoinGraph
