import JoinGraph.Proofs.PlainStatement

/-!
# Drafts of plain statements

A draft has the clauses of a plain statement, but it says of each alias how it is written, behind
`as` or alone, and it lets aliases clash.  What a reader finds in a clause depends on no more than
that, so the readers are studied on drafts; a plain statement is a draft whose aliases stand
behind `as` (`Select.tokens_draft`).
-/

namespace JoinGraph.Plain

/-! ## Drafts -/

/-- An alias as it is written. -/
structure Draft.Alias where
  name : Identifier
  /-- whether `as` stands in front of it -/
  marked : Bool

/-- An entry of the SELECT list. -/
structure Draft.Column where
  column : ColumnName
  alias? : Option Draft.Alias

/-- An entry of the FROM list. -/
structure Draft.Table where
  name : Identifier
  alias? : Option Draft.Alias

/-- A joined table, and the two columns that ON makes equal. -/
structure Draft.Join where
  table : Draft.Table
  on? : Option (ColumnName × ColumnName)

/-- A SELECT from at least one table. -/
structure Draft where
  columns : List Draft.Column
  first : Draft.Table
  others : List Draft.Table
  joins : List Draft.Join
  filter? : Option Filter

namespace Draft

/-! ## Tokens -/

/-- The tokens of an alias. -/
def aliasTokens : Option Alias → List Token
  | some ⟨name, true⟩ => [.keyword .named, .name name]
  | some ⟨name, false⟩ => [.name name]
  | none => []

/-- The tokens of an entry of the SELECT list. -/
def Column.tokens (c : Column) : List Token := .column c.column :: aliasTokens c.alias?

/-- The tokens of a table and its alias. -/
def Table.tokens (t : Table) : List Token := .table t.name :: aliasTokens t.alias?

/-- The tokens of a join. -/
def Join.tokens (j : Join) : List Token := .keyword .join :: (j.table.tokens ++ onTokens j.on?)

/-- The entries of the SELECT list; without columns it is `*`. -/
def entries (d : Draft) : List (List Token) :=
  if d.columns.isEmpty then [[.star]] else d.columns.map Column.tokens

/-- The tokens of the clauses behind the FROM list. -/
def clauseTokens (joins : List Join) (filter? : Option Filter) : List Token :=
  joins.flatMap Join.tokens ++ (filter?.map Filter.tokens).getD []

/-- The tokens of a draft. -/
def tokens (d : Draft) : List Token :=
  .keyword .select :: (separated d.entries
    ++ .keyword .source :: (separated ((d.first :: d.others).map Table.tokens)
      ++ clauseTokens d.joins d.filter?))

/-! ## What the readers find -/

/-- A column of the SELECT list as it is read. -/
def Column.flat (c : Column) : Shape.Flat.Column := ⟨c.column.ref, c.alias?.map (·.name.text)⟩

/-- A table as it is read. -/
def Table.flat (t : Table) : Shape.Flat.Table := ⟨t.name.text, t.alias?.map (·.name.text)⟩

/-- A join as it is read. -/
def Join.flat (j : Join) : Shape.Flat.Join :=
  ⟨j.table.name.text, j.table.alias?.map (·.name.text), j.on?.map (·.1.ref), j.on?.map (·.2.ref)⟩

/-- A draft as it is read. -/
def flat (d : Draft) : Shape.Flat.Select where
  columns := d.columns.map Column.flat
  tables := (d.first :: d.others).map Table.flat
  joins := d.joins.map Join.flat
  condition := d.filter?.map Filter.condition

end Draft

/-! ## Plain statements as drafts -/

/-- An alias behind `as`. -/
def Identifier.marked (name : Identifier) : Draft.Alias := ⟨name, true⟩

/-- An entry of the SELECT list as a draft. -/
def Column.draft (c : Column) : Draft.Column := ⟨c.column, c.alias?.map Identifier.marked⟩

/-- A table as a draft. -/
def Table.draft (t : Table) : Draft.Table := ⟨t.name, t.alias?.map Identifier.marked⟩

/-- A join as a draft. -/
def Join.draft (j : Join) : Draft.Join := ⟨j.table.draft, j.on?⟩

/-- A plain statement as a draft. -/
def Select.draft (s : Select) : Draft where
  columns := s.columns.map Column.draft
  first := s.first.draft
  others := s.others.map Table.draft
  joins := s.joins.map Join.draft
  filter? := s.filter?

theorem aliasTokens_marked (alias? : Option Identifier) :
    Draft.aliasTokens (alias?.map Identifier.marked) = aliasTokens alias? := by
  cases alias? <;> rfl

/-- A plain statement and its draft have the same tokens. -/
theorem Select.tokens_draft (s : Select) : s.draft.tokens = s.tokens := by
  have htable : ∀ t : Table, t.draft.tokens = t.tokens := fun t => by
    rw [Table.draft, Draft.Table.tokens, aliasTokens_marked, Table.tokens]
  have hjoin : ∀ j : Join, j.draft.tokens = j.tokens := fun j => by
    rw [Join.draft, Draft.Join.tokens, htable, Join.tokens]
  have hcolumn : ∀ c : Column, c.draft.tokens = c.tokens := fun c => by
    rw [Column.draft, Draft.Column.tokens, aliasTokens_marked, Column.tokens]
  have hentries : s.draft.entries = s.entries := by
    simp [Draft.entries, draft, entries, Function.comp_def, hcolumn]
  rw [Draft.tokens, tokens, hentries]
  simp [draft, Draft.clauseTokens, clauseTokens, List.flatMap_map, Function.comp_def, htable, hjoin]

end JoinGraph.Plain
