import JoinGraph.Drawing.Catalog

/-!
# Relations between tables

A relation joins a field of one table to a field of another. It is read from a complete join, one
with a qualified column on both sides, or guessed from the order of the tables when no join is
complete.
-/

namespace JoinGraph

/-! ## Joins as they are written -/

/-- The two sides of a complete join: trimmed qualifiers and columns, none of them blank. -/
structure WrittenJoin where
  left : String
  leftColumn : String
  right : String
  rightColumn : String
  deriving DecidableEq, Repr

namespace WrittenJoin

/-- One side of a complete join. -/
def side? (c : ColumnRef) : Option (String × String) := do
  let qualifier ← c.table.bind Text.nonBlank?
  let column ← Text.nonBlank? c.column
  return (qualifier, column)

/-- The sides of a join, if it is complete. -/
def ofJoin? (j : Join) : Option WrittenJoin := do
  let (left, leftColumn) ← j.left.bind side?
  let (right, rightColumn) ← j.right.bind side?
  return ⟨left, leftColumn, right, rightColumn⟩

/-- The condition as it is written. -/
def condition (w : WrittenJoin) : String :=
  w.left ++ "." ++ w.leftColumn ++ " = " ++ w.right ++ "." ++ w.rightColumn

end WrittenJoin

/-- The complete joins of a list of joins. -/
def completeJoins (joins : List Join) : List WrittenJoin := joins.filterMap WrittenJoin.ofJoin?

/-- The catalog with the tables that only joins name, the left side of a join before the right. -/
def Catalog.withJoined (c : Catalog) (joins : List WrittenJoin) : Catalog :=
  joins.foldl (fun c w => (c.addUnknown w.left).addUnknown w.right) c

/-! ## Relations -/

/-- A field of a table, and the alias through which it was named, if there was one. -/
structure Endpoint where
  table : String
  field : String
  alias? : Option String
  deriving DecidableEq, Repr

/-- How the table of an endpoint is named in the statement. -/
def Endpoint.written (e : Endpoint) : String := e.alias?.getD e.table

/-- A join between two fields. -/
structure Relation where
  left : Endpoint
  right : Endpoint
  condition : String
  confidence : Confidence
  deriving DecidableEq, Repr

namespace Relation

/-- The endpoint that a qualified column stands for. -/
def endpoint (c : Catalog) (qualifier column : String) : Endpoint :=
  let table := c.resolve qualifier
  ⟨table, column, if qualifier = table then none else some qualifier⟩

/-- The relation of a complete join. -/
def ofWritten (c : Catalog) (w : WrittenJoin) : Relation :=
  ⟨endpoint c w.left w.leftColumn, endpoint c w.right w.rightColumn, w.condition, .parsed⟩

/-- The guess for two tables in a row: the key of the first occurs in the second under its name. -/
def guess (left right : String) : Relation :=
  let key := left ++ "_id"
  ⟨⟨left, "id", none⟩, ⟨right, key, none⟩, left ++ ".id = " ++ right ++ "." ++ key, .inferred⟩

/-- A guess for each two tables in a row, neither of them an alias. -/
def guesses (c : Catalog) : List Relation :=
  (c.tables.zip c.tables.tail).filterMap fun (left, right) =>
    if c.isAlias left || c.isAlias right then none else some (guess left right)

/-- What a field is joined to, seen from its own endpoint. -/
def target (own other : Endpoint) (isSource : Bool) : JoinTarget :=
  ⟨own.table, own.field, own.alias?, other.table, other.field, other.alias?, isSource⟩

/-- Both ends of a relation, the left one first. -/
def targets (r : Relation) : List JoinTarget :=
  [target r.left r.right true, target r.right r.left false]

end Relation

/-- The first join target of a field of a table. -/
def joinTarget? (relations : List Relation) (table field : String) : Option JoinTarget :=
  (relations.flatMap Relation.targets).find? fun t => t.table == table && t.field == field

end JoinGraph
