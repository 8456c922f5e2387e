import JoinGraph.Statement.Json
import JoinGraph.Json.Writer

/-!
# The grammar shape

The tree that a full grammar yields. Joined tables stand among the others and carry the join; an
expression is a node with a type, of which only column references and binary expressions have a
meaning here.

`Grammar.Select.statement` reads the statement off the tree. From an ON condition it takes the first
equality of two columns that is reached through `AND` (`Grammar.Expr.equality?`), from the WHERE
condition the leftmost comparison (`Grammar.Expr.comparison?`).
-/

namespace JoinGraph.Shape.Grammar

open Json (Decoder Fields)

/-! ## Expressions -/

/-- A node of an expression. Which parts it has depends on its type. -/
inductive Expr where
  | node (kind : String) (table : Option String) (column : Option Json)
      (operator : Option String) (left right : Option Expr) (value : Option Json)
  deriving Inhabited

namespace Expr

/-- The type of a column reference. -/
def columnKind : String := "column_ref"

/-- The type of an expression of two operands. -/
def binaryKind : String := "binary_expr"

/-- A column, qualified or not. -/
def column (table : Option String) (name : String) : Expr :=
  node columnKind table (some (.string name)) none none none none

/-- An operator between two expressions. -/
def binary (operator : String) (left right : Expr) : Expr :=
  node binaryKind none none (some operator) (some left) (some right) none

/-- A value of some type. -/
def literal (kind : String) (value : Json) : Expr :=
  node kind none none none none none (some value)

/-- The name of a column: a string, or the value of an expression inside an object. -/
def columnName? : Json → Option String
  | .string name => some name
  | v => do ((← (← v.get? "expr").get? "value")).asString?

/-- The column that an expression refers to. -/
def ref? : Expr → Option ColumnRef
  | node kind table column _ _ _ _ => do
    guard (kind = columnKind)
    let name ← column.bind columnName?
    match table.bind Text.nonBlank? with
    | some table =>
      let column := Name.bare name
      if column.isEmpty then none else some ⟨some (Name.bare table), column⟩
    | none => ColumnRef.ofPath? name

/-- The text of an expression that has a value. -/
def literalText? : Expr → Option String
  | node _ _ _ _ _ _ value =>
    value.map fun v => match v with
      | .string s => s
      | .null => "NULL"
      | other => other.compact

/-- Whether a node joins two expressions by one of the operators, in any ASCII case. -/
def joinsBy (operators : List String) (kind : String) (operator : Option String) : Bool :=
  kind == binaryKind &&
    operator.any fun o => operators.any fun name => Text.equalFold name (Text.trim o)

/-- The first equality of two columns, in the order of the text, below conjunctions. -/
def equality? : Expr → Option (ColumnRef × ColumnRef)
  | node kind _ _ operator left right _ =>
    if joinsBy ["AND"] kind operator then
      (match left with
        | some l => equality? l
        | none => none) <|>
      (match right with
        | some r => equality? r
        | none => none)
    else if joinsBy ["="] kind operator then do
      return (← ref? (← left), ← ref? (← right))
    else none

/-- The literal that a column is compared with: a column as it is written, or a text unquoted. -/
def comparedText? (right : Expr) : Option String :=
  match right.ref? with
  | some ref => some ref.text
  | none => right.literalText?.map Name.unquote

/-- The comparison that is reached by going left through conjunctions and disjunctions. -/
def comparison? : Expr → Option Condition
  | node kind _ _ operator left right _ =>
    if joinsBy ["AND", "OR"] kind operator then
      match left with
      | some l => comparison? l
      | none => none
    else do
      guard (kind = binaryKind)
      let operator ← Comparison.read? (← operator)
      let ref ← ref? (← left)
      return ⟨ref, operator, ← comparedText? (← right)⟩

end Expr

/-! ## Trees -/

/-- An entry of the FROM list; one with a join or a condition is a joined table. -/
structure Source where
  db : Option String
  table : String
  alias? : Option String
  join : Option String
  on : Option Expr

/-- An entry of the SELECT list. -/
structure Column where
  expr : Expr
  alias? : Option String

/-- The SELECT list: its entries, or a text such as `*`. -/
inductive Columns where
  | list (columns : List Column)
  | all (text : String)

/-- A SELECT statement. -/
structure Select where
  kind : String
  columns : Columns
  sources : List Source
  condition : Option Expr

/-! ## Statements -/

/-- The projected column of an entry, if the entry is a plain column. -/
def Column.projected? (c : Column) : Option ProjectedColumn := do
  let ref ← c.expr.ref?
  if ref.column = "*" then none else some ⟨ref.table, ref.column, c.alias?.bind Text.nonBlank?⟩

/-- Adds an entry of the FROM list to a statement. -/
def Source.addTo (s : Statement) (source : Source) : Statement :=
  let table := Name.bare source.table
  let alias? := (source.alias?.bind Text.nonBlank?).map Name.bare
  if table.isEmpty then s
  else if source.join.isSome || source.on.isSome then
    let sides := source.on.bind Expr.equality?
    s.pushJoin table alias? (sides.map (·.1)) (sides.map (·.2))
  else s.pushTable table alias?

/-- The statement that a tree stands for. -/
def Select.statement (select : Select) : Statement :=
  let tables := select.sources.foldl Source.addTo Statement.empty
  let projected := match select.columns with
    | .list columns => columns.filterMap Column.projected?
    | .all _ => []
  { tables with projected := projected, condition := select.condition.bind Expr.comparison? }

/-! ## Written form -/

/-- Writes an expression. -/
def Expr.toJson : Expr → Json
  | node kind table column operator left right value =>
    let member (name : String) (v : Option Json) : List (String × Json) :=
      Json.optionalMember name id v
    .object ([("type", .string kind)] ++ Json.optionalMember "table" .string table
      ++ member "column" column ++ Json.optionalMember "operator" .string operator
      ++ member "left" (match left with
        | some l => some l.toJson
        | none => none)
      ++ member "right" (match right with
        | some r => some r.toJson
        | none => none)
      ++ member "value" value)

/-- Reads an expression that is nested at most `fuel` deep. -/
def Expr.decodeWithin : (fuel : Nat) → Decoder Expr
  | 0 => fun v => .error (.wrongType (Json.describe v) "struct GrammarExpr")
  | fuel + 1 => .record "GrammarExpr" (Expr.node <$> .withDefault "type" "" .text
      <*> .optional "table" .text <*> .optional "column" .any <*> .optional "operator" .text
      <*> .optional "left" (decodeWithin fuel) <*> .optional "right" (decodeWithin fuel)
      <*> .optional "value" .any)

/-- Reads an expression. -/
def Expr.decode : Decoder Expr := fun v => decodeWithin (v.depth + 1) v

/-- Writes an entry of the SELECT list. -/
def Column.toJson (c : Column) : Json :=
  .object [("expr", c.expr.toJson), ("as", Json.orNull .string c.alias?)]

/-- Reads an entry of the SELECT list. -/
def Column.decode : Decoder Column :=
  .record "GrammarColumn" (Column.mk <$> .required "expr" Expr.decode <*> .optional "as" .text)

/-- Writes a SELECT list. -/
def Columns.toJson : Columns → Json
  | list columns => .array (columns.map Column.toJson)
  | all text => .string text

/-- Reads a SELECT list. -/
def Columns.decode : Decoder Columns := fun v =>
  match Decoder.listOf Column.decode v, v with
  | .ok columns, _ => .ok (.list columns)
  | .error _, .string text => .ok (.all text)
  | .error _, _ => .error (.noAlternative "GrammarColumns")

/-- Writes an entry of the FROM list. -/
def Source.toJson (s : Source) : Json :=
  .object (Json.optionalMember "db" .string s.db
    ++ [("table", .string s.table), ("as", Json.orNull .string s.alias?)]
    ++ Json.optionalMember "join" .string s.join ++ Json.optionalMember "on" Expr.toJson s.on)

/-- Reads an entry of the FROM list. -/
def Source.decode : Decoder Source :=
  .record "GrammarFrom" (Source.mk <$> .optional "db" .text <*> .withDefault "table" "" .text
    <*> .optional "as" .text <*> .optional "join" .text <*> .optional "on" Expr.decode)

/-- Writes a SELECT statement. -/
def Select.toJson (s : Select) : Json :=
  .object [("ast", .object [("type", .string s.kind), ("columns", s.columns.toJson),
    ("from", .array (s.sources.map Source.toJson)),
    ("where", Json.orNull Expr.toJson s.condition)])]

/-- Reads a SELECT statement. -/
def Select.decode : Decoder Select :=
  let select : Decoder Select :=
    .record "GrammarSelect" (Select.mk <$> .required "type" .text
      <*> .withDefault "columns" (.list []) Columns.decode
      <*> ((·.getD []) <$> .optional "from" (.listOf Source.decode))
      <*> .optional "where" Expr.decode)
  .record "FullGrammarAst" (id <$> .required "ast" select)

end JoinGraph.Shape.Grammar
