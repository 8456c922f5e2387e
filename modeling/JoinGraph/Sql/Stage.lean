import JoinGraph.Sql.Select

/-!
# Stages

In some dialects `|>` hands the rows of a query on to a stage, which keeps, extends, joins or
groups them, and so on from stage to stage. A graph shows the query before the first stage; of the
stages only the text is kept.
-/

namespace JoinGraph.Sql.Grammar

open Parse

/-- Reads an assignment of a value. -/
def assignment (g : Grammar) : Parse String := do
  let target ← if ← isSign "(" then do
      let names ← parenthesized (g.list (objectName g false))
      pure (inParentheses (commaText (names.map nameText)))
    else nameText <$> objectName g false
  expectSign "="
  return target ++ " = " ++ (← exprText g)

/-- Reads which rows of a combination are kept, if that is said. -/
def combinationRows : Parse String := do
  let forms := [["DISTINCT", "BY", "NAME"], ["BY", "NAME"], ["ALL", "BY", "NAME"], ["ALL"],
    ["DISTINCT"]]
  match forms.find? (beginWith · (← get)) with
  | some words =>
    modify (List.drop words.length)
    return " ".intercalate words
  | none => return ""

/-- Reads which rows of a combination are kept where equal ones may not be. -/
def distinctCombination (word : String) : Parse String := do
  let rows ← combinationRows
  if rows.startsWith "DISTINCT" then return rows
  else complainPlainly (word ++ " pipe operator requires DISTINCT modifier")

/-- Reads queries in parentheses. -/
def queriesOf (g : Grammar) : Parse String := do
  return commaText (← g.list ((inParentheses ∘ Query.text) <$> parenthesized g.query))

/-- Reads the name of a result, with or without `AS`, if there is one. -/
def resultName : Parse String := do
  if ← takeKeyword "AS" then return "AS " ++ (← ident).text
  else
    match ← maybe ident with
    | some name => return "AS " ++ name.text
    | none => return ""

/-- Reads an expression of an aggregation with its name and its direction. -/
def aggregate (g : Grammar) : Parse String := do
  let value ← exprText g
  let mayName (tokens : List Lexeme) : Bool :=
    !(["ASC", "DESC", "GROUP"].contains (keywordAt 0 tokens))
  let named := match ← aliasWhere mayName with
    | some name => "AS " ++ name.text
    | none => ""
  return spaced [value, named, (← takeOneOf ["ASC", "DESC"]).getD ""]

/-- Reads an aggregation behind its first word. -/
def aggregation (g : Grammar) : Parse String := do
  let values ← if ← isKeyword "GROUP" then pure [] else g.list (aggregate g)
  let groups ← if ← takeKeywords ["GROUP", "BY"] then do
      pure ("GROUP BY " ++ commaText (← g.list (aggregate g)))
    else pure ""
  return spaced [commaText values, groups]

/-- Reads a renaming of a column. -/
def renamedColumn : Parse String := do
  let column ← ident
  let _ ← takeKeyword "AS"
  return column.text ++ " AS " ++ (← ident).text

/-- The words of stages that join the rows with others. -/
def joinWords : List String := ["JOIN", "INNER", "LEFT", "RIGHT", "FULL", "CROSS"]

/-- Reads a single join. -/
def singleJoin (g : Grammar) : Parse String := do
  let fuel := (← get).length + 1
  match ← joinsWithin g (sourceWithin g fuel) fuel with
  | [join] => return join.text
  | _ => complainPlainly "Join pipe operator must have a single join"

/-- Reads what follows the word of a stage. -/
def stageRest (g : Grammar) (word : String) : Parse String := do
  match word with
  | "SELECT" | "EXTEND" => return commaText ((← g.list (item g)).map Item.text)
  | "SET" => return commaText (← g.list (assignment g))
  | "DROP" => return commaText (← g.list (Ident.text <$> ident))
  | "AS" => return (← ident).text
  | "WHERE" => exprText g
  | "LIMIT" =>
    let count ← exprText g
    return spaced [count, ← clause "OFFSET" (exprText g)]
  | "AGGREGATE" => aggregation g
  | "ORDER" =>
    expectKeyword "BY"
    return "BY " ++ commaText (← g.list (orderKey g))
  | "RENAME" => return commaText (← g.list renamedColumn)
  | "UNION" =>
    let rows ← combinationRows
    return spaced [rows, ← queriesOf g]
  | "INTERSECT" | "EXCEPT" =>
    let rows ← distinctCombination word
    return spaced [rows, ← queriesOf g]
  | "CALL" =>
    let name ← objectName g false
    let call := nameText name ++ (← callRest g)
    return spaced [call, ← resultName]
  | _ =>
    let rearrangement ← balanced
    return spaced [rearrangement, ← resultName]

/-- Reads a stage. -/
def stage (g : Grammar) : Parse String := do
  if ← isOneOf joinWords then singleJoin g
  else if ← isKeyword "TABLESAMPLE" then tableSample g
  else
    let word ← expectOneOf ["SELECT", "EXTEND", "SET", "DROP", "AS", "WHERE", "LIMIT", "AGGREGATE",
      "ORDER", "RENAME", "UNION", "INTERSECT", "EXCEPT", "CALL", "PIVOT", "UNPIVOT"]
    return spaced [word, ← stageRest g word]

/-- Reads the stages behind a query. -/
def stages (g : Grammar) : Parse String :=
  repeatFrom "" fun taken => do
    if ← onlyIf g.dialect.stages (takeSign "|>") then
      return some (spaced [taken, "|> " ++ (← stage g)])
    else return none

end JoinGraph.Sql.Grammar
