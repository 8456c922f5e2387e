import JoinGraph.Statement.Json
import JoinGraph.Json.Writer

/-!
# The structured shape

A statement as an object of clauses in capitals, with the two sides of each join already apart. An
alias may be an empty text, which is no alias. The condition may be any value: the first
comparison is found by going left until a column stands there (`Structured.predicate?`).
-/

namespace JoinGraph.Shape.Structured

open Json (Decoder Fields)

/-! ## Trees -/

/-- A column as an operand; its name may be a path that holds the table too. -/
structure Operand where
  kind : Option String
  table : Option String
  column : Option String

/-- An entry of the SELECT list. -/
structure Column where
  expr : Operand
  alias? : Option String

/-- An entry of the FROM list. -/
structure Table where
  table : String
  alias? : Option String

/-- The two sides of a join. -/
structure On where
  left : Option Operand
  right : Option Operand

/-- A joined table. -/
structure Join where
  table : String
  alias? : Option String
  on : Option On

/-- A SELECT statement. -/
structure Select where
  columns : List Column
  tables : List Table
  joins : List Join
  condition : Option Json

/-! ## Reading -/

/-- Reads an operand. -/
def Operand.decode : Decoder Operand :=
  .record "StructuredOperand" (Operand.mk <$> .optional "type" .text <*> .optional "table" .text
    <*> .optional "column" .text)

/-- Reads an entry of the SELECT list. -/
def Column.decode : Decoder Column :=
  .record "StructuredColumn" (Column.mk <$> .required "expr" Operand.decode
    <*> .optional "as" .text)

/-- Reads an entry of the FROM list. -/
def Table.decode : Decoder Table :=
  .record "StructuredTable" (Table.mk <$> .required "table" .text <*> .optional "as" .text)

/-- Reads the sides of a join. -/
def On.decode : Decoder On :=
  .record "StructuredOn" (On.mk <$> .optional "left" Operand.decode
    <*> .optional "right" Operand.decode)

/-- Reads a joined table. -/
def Join.decode : Decoder Join :=
  .record "StructuredJoin" (Join.mk <$> .required "table" .text <*> .optional "as" .text
    <*> .optional "ON" On.decode)

/-- Reads a SELECT statement. -/
def Select.decode : Decoder Select :=
  let select : Decoder Select :=
    .record "StructuredSelect" (Select.mk
      <$> .withDefault "result_columns" [] (.listOf Column.decode)
      <*> .withDefault "FROM" [] (.listOf Table.decode)
      <*> .withDefault "JOIN" [] (.listOf Join.decode) <*> .optional "WHERE" .any)
  .record "StructuredAst" (id <$> .required "SELECT" select)

/-! ## Writing -/

/-- Writes an operand. -/
def Operand.toJson (o : Operand) : Json :=
  .object (Json.optionalMember "type" .string o.kind
    ++ [("table", Json.orNull .string o.table), ("column", Json.orNull .string o.column)])

/-- Writes an entry of the SELECT list. -/
def Column.toJson (c : Column) : Json :=
  .object [("expr", c.expr.toJson), ("as", Json.orNull .string c.alias?)]

/-- Writes an entry of the FROM list. -/
def Table.toJson (t : Table) : Json :=
  .object [("table", .string t.table), ("as", Json.orNull .string t.alias?)]

/-- Writes the sides of a join. -/
def On.toJson (o : On) : Json :=
  .object [("left", Json.orNull Operand.toJson o.left),
    ("right", Json.orNull Operand.toJson o.right)]

/-- Writes a joined table. -/
def Join.toJson (j : Join) : Json :=
  .object [("table", .string j.table), ("as", Json.orNull .string j.alias?),
    ("ON", Json.orNull On.toJson j.on)]

/-- Writes a SELECT statement. -/
def Select.toJson (s : Select) : Json :=
  .object [("SELECT", .object [("result_columns", .array (s.columns.map Column.toJson)),
    ("FROM", .array (s.tables.map Table.toJson)), ("JOIN", .array (s.joins.map Join.toJson)),
    ("WHERE", s.condition.getD .null)])]

/-! ## Statements -/

/-- The column that an operand refers to. -/
def Operand.ref? (o : Operand) : Option ColumnRef := do
  let column ← o.column.bind Text.nonBlank?
  match o.table.bind Text.nonBlank? with
  | some table => some ⟨some (Name.bare table), Name.bare column⟩
  | none => ColumnRef.ofPath? column

/-- The column that a value refers to, if it has the form of an operand. -/
def valueRef? (v : Json) : Option ColumnRef :=
  match Operand.decode v with
  | .ok operand => operand.ref?
  | .error _ => none

/-- The member of a value that holds its literal. -/
def innerLiteral? (v : Json) : Option Json := v.get? "literal" <|> v.get? "value"

theorem sizeOf_lt_of_innerLiteral? {v inner : Json} (h : innerLiteral? v = some inner) :
    sizeOf inner < sizeOf v := by
  unfold innerLiteral? at h
  cases hl : v.get? "literal" with
  | some found =>
    simp only [hl, Option.orElse_eq_orElse, Option.orElse_some, Option.some.injEq] at h
    exact h ▸ Json.sizeOf_lt_of_get? hl
  | none =>
    simp only [hl, Option.orElse_eq_orElse, Option.orElse_none] at h
    exact Json.sizeOf_lt_of_get? h

/-- The text of the value a column is compared with. -/
def comparedText? (v : Json) : Option String :=
  match v with
  | .string s => some (Name.unquote s)
  | .number n => some (Name.unquote n.text)
  | .bool b => some (if b then "true" else "false")
  | .null => some "NULL"
  | .array _ => none
  | .object members =>
    match _h : innerLiteral? (.object members) with
    | some inner => comparedText? inner
    | none => (valueRef? (.object members)).map ColumnRef.text
termination_by sizeOf v
decreasing_by exact sizeOf_lt_of_innerLiteral? _h

/-- The comparison of a condition: the first node, going left, with a column on its left side. -/
def predicate? (v : Json) : Option Condition :=
  match _h : v.get? "left" with
  | none => none
  | some left =>
    match valueRef? left with
    | none => predicate? left
    | some ref => do
      let operator ← Comparison.read? (← (← v.get? "operator").asString?)
      return ⟨ref, operator, ← comparedText? (← v.get? "right")⟩
termination_by sizeOf v
decreasing_by exact Json.sizeOf_lt_of_get? _h

/-- An alias without delimiters, unless it is blank. -/
def aliasName? (name : Option String) : Option String :=
  (name.bind Text.nonBlank?).map Name.bare

/-- The projected column of an entry, unless it is a wildcard. -/
def Column.projected? (c : Column) : Option ProjectedColumn := do
  let ref ← c.expr.ref?
  if ref.column = "*" then none else some ⟨ref.table, ref.column, c.alias?.bind Text.nonBlank?⟩

/-- The statement that a tree stands for. -/
def Select.statement (select : Select) : Statement :=
  let tables := select.tables.foldl
    (fun s t => s.pushTable (Name.bare t.table) (aliasName? t.alias?)) Statement.empty
  let joined := select.joins.foldl (fun s j =>
    s.pushJoin (Name.bare j.table) (aliasName? j.alias?)
      (j.on.bind fun on => on.left.bind Operand.ref?)
      (j.on.bind fun on => on.right.bind Operand.ref?)) tables
  { joined with
    projected := select.columns.filterMap Column.projected?
    condition := select.condition.bind predicate? }

end JoinGraph.Shape.Structured
