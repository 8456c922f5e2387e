import JoinGraph.Sql.Stage

/-!
# Queries

A query is a SELECT, a list of values, a table, or several of these combined, with names for
queries before it, and an order and limits behind it. `grammar` ties the productions together: a
query or an expression inside of another one is read by the grammar one level further down, and
there are finitely many levels.
-/

namespace JoinGraph.Sql.Grammar

open Parse

/-! ## Bodies -/

/-- Drops three tokens, of which the first is the name of a table, or the first and the third. -/
def tableName : Parse String := do
  let tokens ← get
  let wordAt (n : Nat) (what : String) : Parse String := do
    match ahead? n tokens with
    | some (.word text _) => return text
    | _ =>
      modify (List.drop n)
      expected what
  let name ← if ahead? 1 tokens == some (.sign ".") then do
      pure ((← wordAt 0 "Schema name") ++ "." ++ (← wordAt 2 "Table name"))
    else wordAt 0 "Table name"
  modify (List.drop 3)
  return name

/-- Reads a query without combinations. -/
def simpleBody (g : Grammar) : Parse Query := do
  let plain (text : String) : Query := ⟨none, text⟩
  if (← isKeyword "SELECT") || (g.dialect.fromFirst && (← isKeyword "FROM")) then
    let select ← select g
    return ⟨some select, select.text⟩
  else if ← isSign "(" then
    return plain (inParentheses (← parenthesized g.query).text)
  else
    match ← takeOneOf ["VALUES", "VALUE", "TABLE"] with
    | some "TABLE" => return plain ("TABLE " ++ (← tableName))
    | some word => return plain (word ++ " " ++ (← valueRows g (g.dialect == .mysql)))
    | none => expected "SELECT, VALUES, or a subquery in the query body"

/-- Reads queries that are combined by some words. -/
def combined (words : List String) (operand : Parse Query) : Parse Query := do
  repeatFrom (← operand) fun left => do
    match ← takeOneOf words with
    | some word =>
      let rows ← combinationRows
      let right ← operand
      return some ⟨none, spaced [left.text, word, rows, right.text]⟩
    | none => return none

/-- Reads a query of which parts may be combined. An intersection binds tighter than a union. -/
def body (g : Grammar) : Parse Query :=
  combined ["UNION", "EXCEPT", "MINUS"] (combined ["INTERSECT"] (simpleBody g))

/-! ## Clauses of a query -/

/-- Reads a query with a name. -/
def namedQuery (g : Grammar) : Parse String := do
  let name ← ident
  let columns ← if ← isKeyword "AS" then pure [] else aliasColumns g
  expectKeyword "AS"
  let stored ← if g.dialect == .postgres && columns.isEmpty then do
      if ← takeKeyword "MATERIALIZED" then pure "MATERIALIZED"
      else if ← takeKeywords ["NOT", "MATERIALIZED"] then pure "NOT MATERIALIZED"
      else pure ""
    else pure ""
  let query ← parenthesized g.query
  let origin ← clause "FROM" (Ident.text <$> ident)
  return spaced [(Alias.mk name columns).text, "AS", stored, inParentheses query.text, origin]

/-- Reads the queries that are named before a query. -/
def namedQueries (g : Grammar) : Parse String := do
  unless ← takeKeyword "WITH" do return ""
  let recursive ← optionalWords ["RECURSIVE"]
  return "WITH" ++ recursive ++ " " ++ commaText (← g.list (namedQuery g))

/-- Reads the order of a query, if there is one. -/
def queryOrder (g : Grammar) : Parse String := do
  if ← onlyIf g.dialect.orderByAll (takeKeywords ["ORDER", "BY", "ALL"]) then
    let direction := (← takeOneOf ["ASC", "DESC"]).getD ""
    let nulls ← if ← takeKeywords ["NULLS", "FIRST"] then pure "NULLS FIRST"
      else optionalWords ["NULLS", "LAST"]
    return spaced ["ORDER BY ALL", direction, nulls]
  else
    let order ← orderBy g
    let filled ← if !order.isEmpty && g.dialect.columnStoreClauses then
        clause "INTERPOLATE" do
          if ← isSign "(" then
            let entry : Parse String := do
              let column ← ident
              return spaced [column.text, ← clause "AS" (exprText g)]
            return inParentheses (commaText (← parenthesized (commaListUntil g.dialect ")" entry)))
          else return ""
      else pure ""
    return spaced [order, filled]

/-- Reads how many rows are skipped, behind `OFFSET`. -/
def offsetRows (g : Grammar) : Parse String := do
  let count ← exprText g
  return spaced ["OFFSET", count, (← takeOneOf ["ROW", "ROWS"]).getD ""]

/-- Reads how many rows are skipped and kept, if that is said. -/
def limits (g : Grammar) : Parse String := do
  let first ← if ← takeKeyword "OFFSET" then offsetRows g else pure ""
  if ← takeKeyword "LIMIT" then
    let isAll ← takeKeyword "ALL"
    let count ← if isAll then pure "" else exprText g
    if ← onlyIf (g.dialect.limitComma && first.isEmpty && !isAll) (takeSign ",") then
      return "LIMIT " ++ count ++ ", " ++ (← exprText g)
    let groups ← if g.dialect.columnStoreClauses then clause "BY" g.exprTexts else pure ""
    let last ← if ← onlyIf first.isEmpty (takeKeyword "OFFSET") then offsetRows g else pure ""
    let limit := if isAll then "" else "LIMIT " ++ count
    return spaced [limit, first, last, groups]
  else return first

/-- Reads how many rows are fetched, if that is said. -/
def fetched (g : Grammar) : Parse String := do
  unless ← takeKeyword "FETCH" do return ""
  let _ ← expectOneOf ["FIRST", "NEXT"]
  let quantity ← if (← takeOneOf ["ROW", "ROWS"]).isSome then pure "" else do
    let quantity ← value g
    let percent ← optionalWords ["PERCENT"]
    let _ ← expectOneOf ["ROW", "ROWS"]
    pure (quantity.text ++ percent)
  let ties ← if ← takeKeyword "ONLY" then pure "ONLY"
    else if ← takeKeywords ["WITH", "TIES"] then pure "WITH TIES"
    else expected "one of ONLY or WITH TIES"
  return spaced ["FETCH FIRST", quantity, "ROWS", ties]

/-- Reads a lock on the rows of a query, or the form in which they are wanted, behind `FOR`. -/
def lock (g : Grammar) : Parse String := do
  match ← takeOneOf ["XML", "JSON", "BROWSE"] with
  | some "BROWSE" => return "FOR BROWSE"
  | some word => return spaced ["FOR", word, ← statementRest]
  | none =>
    let kind ← expectOneOf ["UPDATE", "SHARE"]
    let table ← clause "OF" (nameText <$> objectName g false)
    let wait ← if ← takeKeyword "NOWAIT" then pure "NOWAIT"
      else if ← takeKeywords ["SKIP", "LOCKED"] then pure "SKIP LOCKED"
      else pure ""
    return spaced ["FOR", kind, table, wait]

/-- Reads locks on the rows of a query. -/
def locks (g : Grammar) : Parse String :=
  repeatFrom "" fun taken => do
    if ← takeKeyword "FOR" then return some (spaced [taken, ← lock g]) else return none

/-- Reads the format of the rows of a query, if that is said. -/
def format (g : Grammar) : Parse String := do
  if g.dialect.columnStoreClauses then clause "FORMAT" (Ident.text <$> ident) else return ""

/-- Reads a query. -/
def queryOf (g : Grammar) : Parse Query := do
  let named ← namedQueries g
  match ← takeOneOf ["INSERT", "UPDATE", "DELETE", "MERGE"] with
  | some word => return ⟨none, spaced [named, word, ← statementRest]⟩
  | none =>
    let body ← body g
    let order ← queryOrder g
    let limits ← limits g
    let settings ← settings g
    let fetched ← fetched g
    let locks ← locks g
    let format ← format g
    return ⟨body.select?,
      spaced [named, body.text, order, limits, settings, fetched, locks, format, ← stages g]⟩

/-! ## Levels -/

/-- How many statements, queries and expressions may be inside of each other. -/
def levels : Nat := 50

/-- The grammar of a dialect with some levels left. -/
def grammar (d : Dialect) (connectsRows : Bool) : Nat → Grammar
  | 0 =>
    { dialect := d
      connectsRows := connectsRows
      expr := fun _ => throw .tooDeep
      connection := throw .tooDeep
      query := throw .tooDeep }
  | level + 1 =>
    { dialect := d
      connectsRows := connectsRows
      expr := fun least tokens => exprAbove (grammar d connectsRows level) least tokens
      connection := fun tokens => exprAbove (grammar d true level) 0 tokens
      query := fun tokens => queryOf (grammar d connectsRows level) tokens }

end JoinGraph.Sql.Grammar
