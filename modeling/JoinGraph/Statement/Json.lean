import JoinGraph.Statement
import JoinGraph.Json.Decoding

/-!
# Statements in JSON

The written form of a statement. Parts that are absent are left out; reading takes a missing part
and a null for the same.
-/

namespace JoinGraph

open Json (Decoder Fields)

/-! ## Columns and conditions -/

/-- The members of a column reference. -/
def ColumnRef.members (c : ColumnRef) : List (String × Json) :=
  Json.optionalMember "table" .string c.table ++ [("column", .string c.column)]

@[inherit_doc ColumnRef.members]
def ColumnRef.toJson (c : ColumnRef) : Json := .object c.members

/-- The fields of a column reference. -/
def ColumnRef.fields : Fields ColumnRef :=
  ColumnRef.mk <$> .optional "table" .text <*> .required "column" .text

/-- Reads a column reference. -/
def ColumnRef.decode : Decoder ColumnRef := .record "ColumnRef" fields

/-- The operators by the signs they are written with. -/
def Comparison.names : List (String × Comparison) := all.map fun c => (c.sign, c)

/-- Reads an operator. -/
def Comparison.decode : Decoder Comparison := .oneOf names

/-- Writes an operator. -/
def Comparison.toJson (c : Comparison) : Json := .string c.sign

/-- Writes a condition. -/
def Condition.toJson (c : Condition) : Json :=
  .object [("left", c.left.toJson), ("operator", c.operator.toJson), ("literal", .string c.literal)]

/-- Reads a condition, as a record of the given name. -/
def Condition.decode (type : String) : Decoder Condition :=
  .record type (Condition.mk <$> .required "left" ColumnRef.decode
    <*> .required "operator" Comparison.decode <*> .required "literal" .text)

/-! ## Tables, joins, projections -/

/-- Writes a table. -/
def TableRef.toJson (t : TableRef) : Json :=
  .object ([("name", .string t.name)] ++ Json.optionalMember "alias" .string t.alias?)

/-- Reads a table. -/
def TableRef.decode : Decoder TableRef :=
  .record "TableRef" (TableRef.mk <$> .required "name" .text <*> .optional "alias" .text)

/-- Writes a join. -/
def Join.toJson (j : Join) : Json :=
  .object ([("table", .string j.table)] ++ Json.optionalMember "alias" .string j.alias?
    ++ Json.optionalMember "onLeft" ColumnRef.toJson j.left
    ++ Json.optionalMember "onRight" ColumnRef.toJson j.right)

/-- Reads a join. -/
def Join.decode : Decoder Join :=
  .record "JoinClause" (Join.mk <$> .required "table" .text <*> .optional "alias" .text
    <*> .optional "onLeft" ColumnRef.decode <*> .optional "onRight" ColumnRef.decode)

/-- Writes a projected column. -/
def ProjectedColumn.toJson (p : ProjectedColumn) : Json :=
  .object (Json.optionalMember "table" .string p.table ++ [("column", .string p.column)]
    ++ Json.optionalMember "alias" .string p.alias?)

/-- Reads a projected column. -/
def ProjectedColumn.decode : Decoder ProjectedColumn :=
  .record "ProjectedColumn" (ProjectedColumn.mk <$> .optional "table" .text
    <*> .required "column" .text <*> .optional "alias" .text)

/-! ## Statements -/

/-- Writes a statement. -/
def Statement.toJson (s : Statement) : Json :=
  .object ([("tables", .array (s.tables.map TableRef.toJson)),
    ("joins", .array (s.joins.map Join.toJson)),
    ("projectedColumns", .array (s.projected.map ProjectedColumn.toJson))]
    ++ Json.optionalMember "whereCondition" Condition.toJson s.condition)

/-- Reads a statement. -/
def Statement.decode : Decoder Statement :=
  .record "CanonicalStatement" (Statement.mk
    <$> .required "tables" (.listOf TableRef.decode)
    <*> .required "joins" (.listOf Join.decode)
    <*> .required "projectedColumns" (.listOf ProjectedColumn.decode)
    <*> .optional "whereCondition" (Condition.decode "WhereCondition"))

end JoinGraph
