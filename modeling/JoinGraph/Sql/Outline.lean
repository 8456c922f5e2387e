import JoinGraph.Sql.Syntax
import JoinGraph.Shape.Grammar
import JoinGraph.Name

/-!
# Outlines

The outline of a SELECT is its tree in the grammar shape: the columns of the SELECT list, the
named tables with their joins, and the condition. Wildcards and sources of rows without a name
have no place in it, and an expression that is neither a column nor a value nor an operator is a
text.
-/

namespace JoinGraph.Sql

/-- The outline of a text that is not looked into. -/
def textOutline (text : String) : Shape.Grammar.Expr := .literal "expr" (.string text)

/-- The outline of a value. A numeral that is no number of JSON stays a text. -/
def Literal.outline : Literal → Shape.Grammar.Expr
  | string .single text => .literal "single_quote_string" (.string text)
  | string .double text => .literal "single_quote_string" (.string text)
  | number digits _ =>
    .literal "number" (match Json.Number.read? digits with
      | some n => .number n
      | none => .string digits)
  | boolean value => .literal "bool" (.bool value)
  | null => .literal "null" .null
  | other => textOutline other.text

/-- The outline of a path: its last name is a column, the one before it the table. -/
def pathOutline (path : List Ident) : Shape.Grammar.Expr :=
  match path.reverse with
  | [] => textOutline ""
  | [column] => .column none column.value
  | column :: table :: _ => .column (some table.value) column.value

/-- The outline of an expression. Parentheses leave no trace. -/
def Expr.outline : Expr → Shape.Grammar.Expr
  | column path => pathOutline path
  | literal value => value.outline
  | binary operator left right => .binary operator left.outline right.outline
  | nested inner => inner.outline
  | access text => textOutline text
  | phrase text => textOutline text

/-- The outline of an entry of the SELECT list; a wildcard has none. -/
def Item.outline? : Item → Option Shape.Grammar.Column
  | expr value alias? => some ⟨value.outline, alias?.map Ident.value⟩
  | wildcard _ => none
  | tableWildcard _ => none

/-- The outline of a SELECT list; a lone wildcard is one. -/
def itemsOutline : List Item → Shape.Grammar.Columns
  | [.wildcard _] => .all "*"
  | items => .list (items.filterMap Item.outline?)

/-- The name in an outline that a part of a name stands for. -/
def NamePart.outline : NamePart → String
  | ident name => name.value
  | made text => Name.bare text

/-- Whether a part of a name is a clause keyword that is not delimited. -/
def NamePart.isClauseKeyword : NamePart → Bool
  | ident ⟨value, none⟩ => Name.isClauseKeyword value
  | _ => false

/-- The outline of a factor, if it is a named table. -/
def Factor.outline? (f : Factor) (join : Option String) (on : Option Shape.Grammar.Expr) :
    Option Shape.Grammar.Source :=
  match f.origin with
  | .table name =>
    match name.reverse with
    | [] => none
    | table :: rest =>
      if table.isClauseKeyword then none
      else some ⟨rest.head?.map NamePart.outline, table.outline,
        f.alias?.map (·.name.value), join, on⟩
  | _ => none

/-- How a kind of join is called in an outline. -/
def JoinKind.label : JoinKind → String
  | inner => "INNER JOIN"
  | left => "LEFT JOIN"
  | leftOuter => "LEFT JOIN"
  | right => "RIGHT JOIN"
  | rightOuter => "RIGHT JOIN"
  | full => "FULL JOIN"
  | cross => "CROSS JOIN"
  | _ => "JOIN"

/-- The condition of a join, if it has one. -/
def Join.condition? (j : Join) : Option Expr :=
  match j.constraint with
  | .on condition => some condition
  | _ => none

/-- The outline of a joined factor, if it is a named table. -/
def Join.outline? (j : Join) : Option Shape.Grammar.Source :=
  j.factor.outline? (some j.kind.label) (j.condition?.map Expr.outline)

/-- The outlines of the named tables of an entry of the FROM list. -/
def Source.outlines (s : Source) : List Shape.Grammar.Source :=
  (s.factor.outline? none none).toList ++ s.joins.filterMap Join.outline?

/-- The outline of a SELECT. -/
def Select.outline (s : Select) : Shape.Grammar.Select :=
  { kind := "select"
    columns := itemsOutline s.items
    sources := s.sources.flatMap Source.outlines
    condition := s.condition?.map Expr.outline }

end JoinGraph.Sql
