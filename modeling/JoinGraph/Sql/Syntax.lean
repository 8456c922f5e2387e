import JoinGraph.Sql.Token
import JoinGraph.Json.Number

/-!
# Statements as they are read

Of a statement the grammar keeps what a graph may show: columns, comparisons, named tables and
joins. Everything else is kept as its text in a canonical spelling: keywords in capitals, one
blank between words, quotes only where they were written.
-/

namespace JoinGraph.Sql

/-- Texts with commas between them. -/
def commaText (texts : List String) : String := ", ".intercalate texts

/-- A text in parentheses. -/
def inParentheses (text : String) : String := "(" ++ text ++ ")"

/-! ## Names and values -/

/-- A name and the character that opens its delimiters. -/
structure Ident where
  value : String
  quote? : Option Char
  deriving DecidableEq, Repr

/-- A name as it is written. -/
def Ident.text (i : Ident) : String :=
  match i.quote? with
  | some quote => delimited quote i.value
  | none => i.value

/-- Names with periods between them. -/
def pathText (path : List Ident) : String := ".".intercalate (path.map Ident.text)

/-- A value that stands for itself. -/
inductive Literal where
  | string (form : StringForm) (text : String)
  | number (digits : String) (isLong : Bool)
  | boolean (value : Bool)
  | null
  | placeholder (text : String)
  deriving DecidableEq, Repr

/-- A value as it is written. -/
def Literal.text : Literal → String
  | string form text => form.write text
  | number digits isLong => if isLong then digits ++ "L" else digits
  | boolean true => "true"
  | boolean false => "false"
  | null => "NULL"
  | placeholder text => text

/-! ## Expressions -/

/-- An expression. -/
inductive Expr where
  /-- a column and what qualifies it -/
  | column (path : List Ident)
  | literal (value : Literal)
  | binary (operator : String) (left right : Expr)
  /-- an expression in parentheses -/
  | nested (inner : Expr)
  /-- a call or a step into a value -/
  | access (text : String)
  /-- any other expression -/
  | phrase (text : String)
  deriving Repr, Inhabited

/-- An expression as it is written. -/
def Expr.text : Expr → String
  | column path => pathText path
  | literal value => value.text
  | binary operator left right => left.text ++ " " ++ operator ++ " " ++ right.text
  | nested inner => inParentheses inner.text
  | access text => text
  | phrase text => text

/-! ## Tables -/

/-- A part of the name of a table: a name, or a call that makes one. -/
inductive NamePart where
  | ident (name : Ident)
  | made (text : String)

/-- A part of a name as it is written. -/
def NamePart.text : NamePart → String
  | ident name => name.text
  | made text => text

/-- The name of a table, a function or a type. -/
abbrev ObjectName := List NamePart

/-- A name as it is written. -/
def nameText (name : ObjectName) : String := ".".intercalate (name.map NamePart.text)

/-- The name that stands for a table, and the names of its columns. -/
structure Alias where
  name : Ident
  columns : List String

/-- An alias as it is written. -/
def Alias.text (a : Alias) : String :=
  a.name.text ++ if a.columns.isEmpty then "" else " " ++ inParentheses (commaText a.columns)

/-- What rows come from. -/
inductive Origin where
  /-- a table, or a function that is called like one -/
  | table (name : ObjectName)
  /-- joined tables in parentheses -/
  | joined (text : String)
  /-- a query, a list of rows and the like -/
  | rows (text : String)

/-- An origin with its alias and the clauses before and behind the alias. -/
structure Factor where
  origin : Origin
  clauses : String
  alias? : Option Alias
  clausesBehind : String

/-- A factor as it is written. -/
def Factor.text (f : Factor) : String :=
  let origin := match f.origin with
    | .table name => nameText name
    | .joined text => inParentheses text
    | .rows text => text
  let alias? := match f.alias? with
    | some a => " AS " ++ a.text
    | none => ""
  origin ++ f.clauses ++ alias? ++ f.clausesBehind

/-- The kinds of joins. -/
inductive JoinKind where
  | join | inner
  | left | leftOuter | leftSemi | leftAnti
  | right | rightOuter | rightSemi | rightAnti
  | full | cross | semi | anti | straight
  | crossApply | outerApply
  /-- a join with the nearest row -/
  | nearest (condition : Expr)

/-- The words of a join. -/
def JoinKind.words : JoinKind → String
  | join => "JOIN"
  | inner => "INNER JOIN"
  | left => "LEFT JOIN"
  | leftOuter => "LEFT OUTER JOIN"
  | leftSemi => "LEFT SEMI JOIN"
  | leftAnti => "LEFT ANTI JOIN"
  | right => "RIGHT JOIN"
  | rightOuter => "RIGHT OUTER JOIN"
  | rightSemi => "RIGHT SEMI JOIN"
  | rightAnti => "RIGHT ANTI JOIN"
  | full => "FULL JOIN"
  | cross => "CROSS JOIN"
  | semi => "SEMI JOIN"
  | anti => "ANTI JOIN"
  | straight => "STRAIGHT_JOIN"
  | crossApply => "CROSS APPLY"
  | outerApply => "OUTER APPLY"
  | nearest _ => "ASOF JOIN"

/-- Which rows are joined. -/
inductive JoinConstraint where
  | none
  | natural
  | on (condition : Expr)
  /-- equal values in columns of the same name -/
  | shared (columns : List String)

/-- A joined factor. -/
structure Join where
  isGlobal : Bool
  kind : JoinKind
  factor : Factor
  constraint : JoinConstraint

/-- A join as it is written. -/
def Join.text (j : Join) : String :=
  let global := if j.isGlobal then "GLOBAL " else ""
  let natural := match j.constraint with
    | .natural => "NATURAL "
    | _ => ""
  let nearest := match j.kind with
    | .nearest condition => " MATCH_CONDITION " ++ inParentheses condition.text
    | _ => ""
  let constraint := match j.constraint with
    | .on condition => " ON " ++ condition.text
    | .shared columns => " USING" ++ inParentheses (commaText columns)
    | _ => ""
  global ++ natural ++ j.kind.words ++ " " ++ j.factor.text ++ nearest ++ constraint

/-- An entry of the FROM list: a factor and what is joined to it. -/
structure Source where
  factor : Factor
  joins : List Join

/-- An entry of the FROM list as it is written. -/
def Source.text (s : Source) : String :=
  " ".intercalate (s.factor.text :: s.joins.map Join.text)

/-! ## Queries -/

/-- An entry of the SELECT list. -/
inductive Item where
  | expr (value : Expr) (alias? : Option Ident)
  /-- all columns; the text tells which are left out -/
  | wildcard (options : String)
  /-- all columns of a table -/
  | tableWildcard (text : String)

/-- An entry of the SELECT list as it is written. -/
def Item.text : Item → String
  | expr value none => value.text
  | expr value (some name) => value.text ++ " AS " ++ name.text
  | wildcard options => "*" ++ options
  | tableWildcard text => text

/-- A SELECT: what a graph may show of it, and its text. -/
structure Select where
  items : List Item
  sources : List Source
  condition? : Option Expr
  text : String

/-- A query, and its SELECT if it is a plain one. -/
structure Query where
  select? : Option Select
  text : String

/-- A statement; of those that are no queries nothing is kept. -/
inductive Statement where
  | query (q : Query)
  | other

end JoinGraph.Sql
