import JoinGraph.Statement.Json

/-!
# The flat shape

What pattern matching finds in a statement: lists of columns, tables and joins, and one
comparison. Names are already without delimiters and split into qualifier and column.
-/

namespace JoinGraph.Shape.Flat

open Json (Decoder Fields)

/-! ## Trees -/

/-- A plain column of the SELECT list. -/
structure Column where
  ref : ColumnRef
  alias? : Option String
  deriving DecidableEq, Repr

/-- A table of a FROM list. -/
structure Table where
  table : String
  alias? : Option String
  deriving DecidableEq, Repr

/-- A joined table; a side of its condition that could not be read is missing. -/
structure Join where
  table : String
  alias? : Option String
  left : Option ColumnRef
  right : Option ColumnRef
  deriving DecidableEq, Repr

/-- A SELECT statement. -/
structure Select where
  columns : List Column
  tables : List Table
  joins : List Join
  condition : Option Condition
  deriving DecidableEq, Repr

/-- The tree of a text in which nothing was found. -/
def Select.empty : Select := ⟨[], [], [], none⟩

/-- Whether there are neither columns nor tables nor joins. -/
def Select.isEmpty (s : Select) : Bool := s.columns.isEmpty && s.tables.isEmpty && s.joins.isEmpty

/-! ## Reading and writing -/

/-- Writes a column. -/
def Column.toJson (c : Column) : Json :=
  .object (c.ref.members ++ Json.optionalMember "alias" .string c.alias?)

/-- Reads a column, whose members are those of its reference and the alias. -/
def Column.decode : Decoder Column := fun v =>
  match v with
  | .object members => do
    let alias? ← (Fields.optional "alias" .text).ofMembers "FallbackColumn" members
    return ⟨← ColumnRef.fields.ofMembers "ColumnRef" members, alias?⟩
  | v => .error (.wrongType (Json.describe v) "struct FallbackColumn")

/-- Writes a table. -/
def Table.toJson (t : Table) : Json :=
  .object ([("table", .string t.table)] ++ Json.optionalMember "alias" .string t.alias?)

/-- Reads a table. -/
def Table.decode : Decoder Table :=
  .record "FallbackTable" (Table.mk <$> .required "table" .text <*> .optional "alias" .text)

/-- Writes a join. -/
def Join.toJson (j : Join) : Json :=
  .object ([("table", .string j.table)] ++ Json.optionalMember "alias" .string j.alias?
    ++ Json.optionalMember "left" ColumnRef.toJson j.left
    ++ Json.optionalMember "right" ColumnRef.toJson j.right)

/-- Reads a join. -/
def Join.decode : Decoder Join :=
  .record "FallbackJoin" (Join.mk <$> .required "table" .text <*> .optional "alias" .text
    <*> .optional "left" ColumnRef.decode <*> .optional "right" ColumnRef.decode)

/-- Writes a SELECT statement. -/
def Select.toJson (s : Select) : Json :=
  .object ([("select", .array (s.columns.map Column.toJson)),
      ("from", .array (s.tables.map Table.toJson)), ("join", .array (s.joins.map Join.toJson))]
    ++ Json.optionalMember "where" Condition.toJson s.condition)

/-- Reads a SELECT statement. -/
def Select.decode : Decoder Select :=
  .record "FallbackAst" (Select.mk <$> .withDefault "select" [] (.listOf Column.decode)
    <*> .withDefault "from" [] (.listOf Table.decode)
    <*> .withDefault "join" [] (.listOf Join.decode)
    <*> .optional "where" (Condition.decode "FallbackPredicate"))

/-! ## Statements -/

/-- The statement that a tree stands for. -/
def Select.statement (select : Select) : Statement :=
  let tables := select.tables.foldl
    (fun s t => s.pushTable (Text.trim t.table) (t.alias?.bind Text.nonBlank?)) Statement.empty
  let joined := select.joins.foldl (fun s j =>
    s.pushJoin (Text.trim j.table) (j.alias?.bind Text.nonBlank?) j.left j.right) tables
  { joined with
    projected := select.columns.map fun c =>
      ⟨c.ref.table.bind Text.nonBlank?, c.ref.column, c.alias?.bind Text.nonBlank?⟩
    condition := select.condition }

end JoinGraph.Shape.Flat
