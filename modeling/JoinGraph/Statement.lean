import JoinGraph.Name

/-!
# Statements

What a graph is drawn from: the tables, joins, projected columns and first condition of one SELECT
statement, whoever read it. `Statement.pushTable` and `Statement.pushJoin` are the only ways in
which a reader adds tables, and they keep two facts: no table has a blank name
(`pushTable_of_blank`), and no alias is declared twice or repeats the name of its own table
(`pushTable_of_not_blank`).
-/

namespace JoinGraph

/-! ## Columns -/

/-- A column, qualified by a table name or alias as written, or unqualified. -/
structure ColumnRef where
  table : Option String
  column : String
  deriving DecidableEq, Repr, Inhabited

/-- `table.column`, or the column alone. -/
def ColumnRef.text (c : ColumnRef) : String :=
  match c.table with
  | some table => table ++ "." ++ c.column
  | none => c.column

/-- The last two segments of a dotted path: the column, and the qualifier unless it is empty. -/
def ColumnRef.ofSegments? : List (List Char) → Option ColumnRef
  | [] => none
  | [column] => if column.isEmpty then none else some ⟨none, String.ofList column⟩
  | [table, column] =>
    if column.isEmpty then none
    else some ⟨if table.isEmpty then none else some (String.ofList table), String.ofList column⟩
  | _ :: rest => ofSegments? rest

/--
Reads a dotted path: the last segment is the column and the one before it the qualifier, each
without delimiters. Nothing is read from a path whose last segment is blank.
-/
def ColumnRef.ofPathChars? (path : List Char) : Option ColumnRef :=
  ofSegments? ((Text.splitChars '.' (Text.trimChars path)).map Name.bareChars)

@[inherit_doc ColumnRef.ofPathChars?]
def ColumnRef.ofPath? (path : String) : Option ColumnRef := ofPathChars? path.toList

/-! ## Conditions -/

/-- The comparison operators a condition may have. -/
inductive Comparison where
  | equal | notEqual | less | greater | atMost | atLeast
  deriving DecidableEq, Repr, Inhabited

/-- The canonical sign of an operator. -/
def Comparison.sign : Comparison → String
  | equal => "="
  | notEqual => "!="
  | less => "<"
  | greater => ">"
  | atMost => "<="
  | atLeast => ">="

/-- All operators. -/
def Comparison.all : List Comparison := [equal, notEqual, less, greater, atMost, atLeast]

/-- Reads an operator with blanks around it; `<>` is the second sign of `notEqual`. -/
def Comparison.read? (text : String) : Option Comparison :=
  match Text.trim text with
  | "=" => some equal
  | "!=" => some notEqual
  | "<>" => some notEqual
  | "<" => some less
  | ">" => some greater
  | "<=" => some atMost
  | ">=" => some atLeast
  | _ => none

/-- A column compared with a literal whose quotes are removed. -/
structure Condition where
  left : ColumnRef
  operator : Comparison
  literal : String
  deriving DecidableEq, Repr, Inhabited

/-! ## Tables, joins, projections -/

/-- A table named in the statement, with the alias it declares. -/
structure TableRef where
  name : String
  alias? : Option String
  deriving DecidableEq, Repr, Inhabited

/--
A joined table and the sides of its ON equality. A side that could not be read is missing; such a
join still names its table but relates nothing.
-/
structure Join where
  table : String
  alias? : Option String
  left : Option ColumnRef
  right : Option ColumnRef
  deriving DecidableEq, Repr, Inhabited

/-- A column of the SELECT list. -/
structure ProjectedColumn where
  table : Option String
  column : String
  alias? : Option String
  deriving DecidableEq, Repr, Inhabited

/-- The column that is projected. -/
def ProjectedColumn.ref (p : ProjectedColumn) : ColumnRef := ⟨p.table, p.column⟩

/-- One SELECT statement, reduced to what a graph shows of it. -/
structure Statement where
  tables : List TableRef
  joins : List Join
  projected : List ProjectedColumn
  condition : Option Condition
  deriving DecidableEq, Repr, Inhabited

namespace Statement

/-- The statement of which nothing was read. -/
def empty : Statement := ⟨[], [], [], none⟩

/-- Whether nothing was read. -/
def isEmpty (s : Statement) : Bool :=
  s.tables.isEmpty && s.joins.isEmpty && s.projected.isEmpty && s.condition.isNone

/-- Whether some table of the list declares the alias `name`. -/
def declares (tables : List TableRef) (name : String) : Bool :=
  tables.any fun t => t.alias? == some name

/-- The alias a table keeps: not empty, not its own name, not declared before. -/
def keptAlias (tables : List TableRef) (name : String) (alias? : Option String) : Option String :=
  alias?.filter fun a => !a.isEmpty && a != name && !declares tables a

/-- Appends a table; blank names are left out, and an alias that `keptAlias` refuses is dropped. -/
def pushTable (s : Statement) (name : String) (alias? : Option String) : Statement :=
  if Text.isBlankText name then s
  else { s with tables := s.tables ++ [⟨name, keptAlias s.tables name alias?⟩] }

theorem pushTable_of_blank {s : Statement} {name : String} (h : Text.isBlankText name = true)
    (alias? : Option String) : s.pushTable name alias? = s := by
  simp [pushTable, h]

theorem pushTable_of_not_blank {s : Statement} {name : String}
    (h : Text.isBlankText name = false) (alias? : Option String) :
    s.pushTable name alias? =
      { s with tables := s.tables ++ [⟨name, keptAlias s.tables name alias?⟩] } := by
  simp [pushTable, h]

/-- The alias under which the last table was registered, if its name is `table`. -/
def survivingAlias (tables : List TableRef) (table : String) : Option String :=
  match tables.getLast? with
  | some last => if last.name = table then last.alias? else none
  | none => none

/-- Appends a joined table and its join, which carries the alias the table kept. -/
def pushJoin (s : Statement) (table : String) (alias? : Option String)
    (left right : Option ColumnRef) : Statement :=
  if Text.isBlankText table then s
  else
    let registered := s.pushTable table alias?
    { registered with
      joins := registered.joins ++ [⟨table, survivingAlias registered.tables table, left, right⟩] }

end Statement

end JoinGraph
