import JoinGraph.Drawing.Relation

/-!
# The columns of tables

Which fields a statement shows of each table, under which label, and which of them are part of the
result. A column is attributed to a table through its qualifier, or to the only table there is.
Fields are kept under each name a table goes by, its own and its aliases; `FieldSets.merge` unites
them.
-/

namespace JoinGraph

/-! ## Owners -/

/-- A column of the statement whose table is known. -/
structure OwnedColumn where
  /-- the qualifier as written, or the name of the only table -/
  qualifier : String
  table : String
  field : String
  deriving DecidableEq, Repr

/-- The qualifier and the table of a column: the table it resolves to, or the only one there is. -/
def Catalog.owner? (c : Catalog) (column : ColumnRef) : Option (String × String) :=
  match column.table.bind Text.nonBlank? with
  | some qualifier =>
    let table := c.resolve qualifier
    if c.isTable table then some (qualifier, table) else none
  | none =>
    match c.tables with
    | [only] => some (only, only)
    | _ => none

/-- The column with its table, if its name is not blank and its table is known. -/
def Catalog.owned? (c : Catalog) (column : ColumnRef) : Option OwnedColumn := do
  let field ← Text.nonBlank? column.column
  let (qualifier, table) ← c.owner? column
  return ⟨qualifier, table, field⟩

/-- The columns seen in complete joins, then in the projection, then in the condition. -/
def ownedColumns (c : Catalog) (joins : List WrittenJoin) (s : Statement) : List OwnedColumn :=
  let joined := joins.flatMap fun w =>
    [⟨w.left, c.resolve w.left, w.leftColumn⟩, ⟨w.right, c.resolve w.right, w.rightColumn⟩]
  let projected := s.projected.filterMap fun p => c.owned? p.ref
  let filtered := (s.condition.bind fun condition => c.owned? condition.left).toList
  joined ++ projected ++ filtered

/-! ## Fields under each name -/

/-- The fields seen under each name, both in the order in which they were met. -/
abbrev FieldSets := List (String × List String)

namespace FieldSets

/-- The fields under a name. -/
def fieldsOf (sets : FieldSets) (name : String) : List String :=
  match sets.find? (·.1 == name) with
  | some entry => entry.2
  | none => []

/-- Adds a field to a list that does not hold it yet. -/
def insertField (fields : List String) (field : String) : List String :=
  if fields.contains field then fields else fields ++ [field]

/-- Adds fields under a name that is there. -/
def extend (sets : FieldSets) (name : String) (fields : List String) : FieldSets :=
  sets.map fun entry =>
    if entry.1 == name then (entry.1, fields.foldl insertField entry.2) else entry

/-- Empty sets for all tables and aliases. -/
def ofCatalog (c : Catalog) : FieldSets :=
  (c.tables ++ c.aliases.map (·.1)).map fun name => (name, [])

/-- Adds a column under the name of its table and under the alias it was named by. -/
def add (sets : FieldSets) (column : OwnedColumn) : FieldSets :=
  let sets := sets.extend column.table [column.field]
  if column.qualifier = column.table then sets else sets.extend column.qualifier [column.field]

/-- The fields of all columns. -/
def collect (c : Catalog) (columns : List OwnedColumn) : FieldSets :=
  columns.foldl add (ofCatalog c)

/-- Adds the fields under each alias to those of its table. -/
def merge (c : Catalog) (sets : FieldSets) : FieldSets :=
  c.aliases.foldl (fun sets binding => sets.extend binding.2 (sets.fieldsOf binding.1)) sets

end FieldSets

/-! ## Labels and results -/

/-- The label of an end of a relation that was named by an alias. -/
def Endpoint.label? (e : Endpoint) : Option (String × String) :=
  e.alias?.map fun _ =>
    (fieldId e.table e.field, e.field ++ " (" ++ e.table ++ "." ++ e.field ++ ")")

/-- The label of a projected column whose table is known. -/
def ProjectedColumn.label (p : ProjectedColumn) (column : OwnedColumn) : String :=
  let written := column.qualifier ++ "." ++ column.field
  match p.alias?.bind Text.nonBlank? with
  | some name =>
    name ++ " (" ++ (if p.table.isSome then written else column.field) ++ ")"
  | none =>
    if column.qualifier = column.table then column.field
    else written ++ " (" ++ column.table ++ "." ++ column.field ++ ")"

/-- The labels of fields by identifier; of several the last holds. -/
def fieldLabels (c : Catalog) (relations : List Relation) (s : Statement) :
    List (String × String) :=
  let joined := relations.flatMap fun r => [r.left, r.right].filterMap Endpoint.label?
  let projected := s.projected.filterMap fun p =>
    (c.owned? p.ref).map fun column => (fieldId column.table column.field, p.label column)
  joined ++ projected

/-- The label under an identifier, or the name of the field. -/
def labelOf (labels : List (String × String)) (id field : String) : String :=
  match labels.reverse.find? (·.1 == id) with
  | some entry => entry.2
  | none => field

/-- The names of all projected columns. -/
def resultNames (s : Statement) : List String :=
  s.projected.filterMap fun p => Text.nonBlank? p.column

end JoinGraph
