import JoinGraph.Sql.DataType

/-!
# Calls of functions

A call is a name with arguments in parentheses. Arguments may be named, ordered and limited;
behind them a filter and a window may follow.
-/

namespace JoinGraph.Sql.Grammar

open Parse

/-- A text behind a blank, unless it is empty. -/
def blankBefore (text : String) : String := if text.isEmpty then "" else " " ++ text

/-- Some texts with blanks between them, the empty ones left out. -/
def spaced (texts : List String) : String := " ".intercalate (texts.filter fun t => !t.isEmpty)

/-- Reads a keyword and what follows it, if the keyword is there. -/
def clause (word : String) (rest : Parse String) : Parse String := do
  if ← takeKeyword word then return word ++ " " ++ (← rest) else return ""

/-- Reads an expression as text. -/
def exprText (g : Grammar) : Parse String := Expr.text <$> g.anyExpr

/-! ## Values -/

/-- The text of a string and of the strings right behind it, where these go on. -/
def joinStrings (d : Dialect) (text : String) : Parse String := do
  if d == .mysql then
    repeatFrom text fun text => do
      match ← peek? with
      | some (.string .single more) | some (.string .double more) =>
        advance
        return some (text ++ more)
      | _ => return none
  else return text

/-- Reads a value. -/
def value (g : Grammar) : Parse Literal := do
  let take (literal : Literal) : Parse Literal := do
    advance
    return literal
  let named (text : String) : Parse Literal := do
    match (← get).drop 1 with
    | ⟨.word name _, _, false⟩ :: rest => do
      set rest
      return .placeholder (text ++ name)
    | ⟨.number digits false, _, false⟩ :: rest => do
      set rest
      return .placeholder (text ++ digits)
    | _ =>
      advance
      expected "placeholder"
  match ← peek? with
  | some (.number digits isLong) => take (.number digits isLong)
  | some (.string form text) =>
    advance
    if form == .single || form == .double then
      return .string form (← joinStrings g.dialect text)
    else return .string form text
  | some (.placeholder text) => take (.placeholder text)
  | some (.sign ":") => named ":"
  | some (.sign "@") => named "@"
  | some (.word text (some '"')) => take (.string .double text)
  | some (.word _ (some _)) => expected "A value?"
  | some (.word text none) =>
    match (Token.word text none).keyword with
    | "TRUE" =>
        if g.dialect.booleanLiterals then take (.boolean true) else expected "a concrete value"
    | "FALSE" =>
      if g.dialect.booleanLiterals then take (.boolean false) else expected "a concrete value"
    | "NULL" => take .null
    | _ => expected "a concrete value"
  | _ => expected "a value"

/-! ## Orders and windows -/

/-- Reads an expression that rows are ordered by. -/
def orderKey (g : Grammar) : Parse String := do
  let key ← exprText g
  let direction := (← takeOneOf ["ASC", "DESC"]).getD ""
  let nulls ← if ← takeKeywords ["NULLS", "FIRST"] then pure "NULLS FIRST"
    else if ← takeKeywords ["NULLS", "LAST"] then pure "NULLS LAST"
    else pure ""
  let filled ← if ← onlyIf g.dialect.columnStoreClauses (takeKeywords ["WITH", "FILL"]) then do
      let first ← clause "FROM" (exprText g)
      let last ← clause "TO" (exprText g)
      pure (spaced ["WITH FILL", first, last, ← clause "STEP" (exprText g)])
    else pure ""
  return spaced [key, direction, nulls, filled]

/-- Reads an order, if there is one. -/
def orderBy (g : Grammar) : Parse String := do
  if ← takeKeywords ["ORDER", "BY"] then
    return "ORDER BY " ++ commaText (← g.list (orderKey g))
  else return ""

/-- Reads how nulls are treated, if that is said. -/
def nullTreatment : Parse String := do
  match ← takeOneOf ["RESPECT", "IGNORE"] with
  | some word =>
    expectKeyword "NULLS"
    return word ++ " NULLS"
  | none => return ""

/-- Reads one end of a window frame. -/
def frameBound (g : Grammar) : Parse String := do
  if ← takeKeywords ["CURRENT", "ROW"] then return "CURRENT ROW"
  let rows ← if ← takeKeyword "UNBOUNDED" then pure "UNBOUNDED" else exprText g
  match ← takeOneOf ["PRECEDING", "FOLLOWING"] with
  | some side => return rows ++ " " ++ side
  | none => expected "PRECEDING or FOLLOWING"

/-- Reads a window frame. -/
def windowFrame (g : Grammar) : Parse String := do
  match ← takeOneOf ["ROWS", "RANGE", "GROUPS"] with
  | some unit =>
    if ← takeKeyword "BETWEEN" then
      let first ← frameBound g
      expectKeyword "AND"
      return unit ++ " BETWEEN " ++ first ++ " AND " ++ (← frameBound g)
    else return unit ++ " " ++ (← frameBound g)
  | none => expected "ROWS, RANGE, GROUPS"

/-- Reads the description of a window behind its opening parenthesis, and the closing one. -/
def windowRest (g : Grammar) : Parse String := do
  let tokens ← get
  let isName := match ahead? 0 tokens with
    | some (.word ..) =>
      !(["PARTITION", "ORDER", "ROWS", "RANGE", "GROUPS"].contains (keywordAt 0 tokens))
    | _ => false
  let name ← if isName then Ident.text <$> ident else pure ""
  let partition ← if ← takeKeywords ["PARTITION", "BY"] then
      pure ("PARTITION BY " ++ (← g.exprTexts))
    else pure ""
  let order ← orderBy g
  if ← takeSign ")" then return inParentheses (spaced [name, partition, order])
  else
    let frame ← windowFrame g
    expectSign ")"
    return inParentheses (spaced [name, partition, order, frame])

/-! ## Arguments -/

/-- Reads an expression or a wildcard. -/
def wildcardOrExpr (g : Grammar) : Parse Item := do
  let tokens ← get
  let isPath := match ahead? 0 tokens with
    | some (.word ..) => true
    | some (.string .single _) => true
    | _ => false
  if ← takeSign "*" then return .wildcard ""
  else if isPath && (← signAhead 1 ".") then
    let first ← ident
    let (path, isWildcard) ← repeatFrom ([first], false) fun (path, isWildcard) => do
      if ← eitherOf (return isWildcard) (Bool.not <$> takeSign ".") then return none
      match ← peek? with
      | some (.sign "*") =>
        advance
        return some (path, true)
      | some (.word text quote?) =>
        advance
        return some (⟨text, quote?⟩ :: path, false)
      | some (.string .single text) =>
        advance
        return some (⟨text, some '\''⟩ :: path, false)
      | _ => expected "an identifier or a '*' after '.'"
    if isWildcard then return .tableWildcard (pathText path.reverse ++ ".*")
    else
      set tokens
      return .expr (← g.anyExpr) none
  else return .expr (← g.anyExpr) none

/-- The signs between the name of an argument and its value. -/
def namingSigns (d : Dialect) : List String :=
  (if d == .mssql then [] else ["=>"]) ++ (if d == .duckdb then ["="] else [])
    ++ (if d == .duckdb || d == .generic then [":="] else [])
    ++ (if d == .mssql || d == .postgres then [":"] else [])

/-- Reads what stands between the name of an argument and its value. -/
def namingOperator (d : Dialect) : Parse String := do
  if ← takeKeyword "VALUE" then return "VALUE"
  match ← peek? with
  | some (.sign sign) =>
    if (namingSigns d).contains sign then
      advance
      return sign
    else expected "argument operator"
  | _ => expected "argument operator"

/-- Reads an argument. -/
def argument (g : Grammar) : Parse String := do
  let named ← maybe do
    let name ← if g.dialect.expressionNamesArgument then exprText g else Ident.text <$> ident
    let operator ← namingOperator g.dialect
    return name ++ " " ++ operator ++ " " ++ (← wildcardOrExpr g).text
  match named with
  | some text => return text
  | none => return (← wildcardOrExpr g).text

/-- Reads whether equal arguments count, if that is said. -/
def duplicates : Parse String := do
  let tokens ← get
  let all ← takeKeyword "ALL"
  let distinct ← takeKeyword "DISTINCT"
  if all && distinct then
    set tokens
    complain "Cannot specify both ALL and DISTINCT"
  else return if all then "ALL" else if distinct then "DISTINCT" else ""

/-- Reads what becomes of nulls in a value of names and values, if that is said. -/
def nullMembers : Parse String := do
  if ← takeKeywords ["ABSENT", "ON", "NULL"] then return "ABSENT ON NULL"
  else if ← takeKeywords ["NULL", "ON", "NULL"] then return "NULL ON NULL"
  else return ""

/-- Reads what becomes of a list that is too long, if that is said. -/
def overflow (g : Grammar) : Parse String := do
  unless ← takeKeywords ["ON", "OVERFLOW"] do return ""
  if ← takeKeyword "ERROR" then return "ON OVERFLOW ERROR"
  expectKeyword "TRUNCATE"
  let filler ← match ← peek? with
    | some (.string ..) => exprText g
    | _ => pure ""
  let count ← takeOneOf ["WITH", "WITHOUT"]
  match count with
  | some word =>
    expectKeyword "COUNT"
    return spaced ["ON OVERFLOW TRUNCATE", filler, word, "COUNT"]
  | none => expected "either WITH or WITHOUT in LISTAGG"

/-- The arguments of a call, and whether they say how nulls are treated. -/
structure Arguments where
  text : String
  treatsNulls : Bool

/-- Reads arguments behind the opening parenthesis, and the closing one. -/
def arguments (g : Grammar) : Parse Arguments := do
  let members ← nullMembers
  let returning ← clause "RETURNING" (DataType.text <$> dataType g)
  if ← takeSign ")" then return ⟨inParentheses (spaced [members, returning]), false⟩
  let distinct ← duplicates
  let entries ← g.list (argument g)
  let nulls ← if g.dialect.nullTreatmentInArguments then nullTreatment else pure ""
  let order ← orderBy g
  let limit ← clause "LIMIT" (exprText g)
  let bound ← if g.dialect == .generic || g.dialect == .bigquery then
      clause "HAVING" do
        let kind ← expectOneOf ["MIN", "MAX"]
        return kind ++ " " ++ (← exprText g)
    else pure ""
  let separator ← if g.dialect == .generic || g.dialect == .mysql then
      clause "SEPARATOR" (Literal.text <$> value g)
    else pure ""
  let overflow ← overflow g
  let moreMembers ← nullMembers
  let moreReturning ← clause "RETURNING" (DataType.text <$> dataType g)
  expectSign ")"
  return ⟨inParentheses
    (spaced [distinct, commaText entries, members, returning, nulls, order, limit,
    bound, separator, overflow, moreMembers, moreReturning]), !nulls.isEmpty⟩

/-! ## Calls -/

/-- Reads the rest of a call behind the name of the function, as text. -/
def callRest (g : Grammar) : Parse String := do
  expectSign "("
  if g.dialect.queryArgument && (← queryAhead) then
    let query ← g.query
    expectSign ")"
    return inParentheses query.text
  let first ← arguments g
  let isParametric ← if g.dialect.columnStoreClauses then takeSign "(" else pure false
  let last ← if isParametric then arguments g else pure first
  let parameters := if isParametric then first.text else ""
  let group ← if ← takeKeywords ["WITHIN", "GROUP"] then
      parenthesized do
        expectKeywords ["ORDER", "BY"]
        return "WITHIN GROUP (ORDER BY " ++ commaText (← g.list (orderKey g)) ++ ")"
    else pure ""
  let isFiltered ← if g.dialect.filteredAggregates then
      if ← takeKeyword "FILTER" then if ← takeSign "(" then takeKeyword "WHERE" else pure false
      else pure false
    else pure false
  let filter ← if isFiltered then do
      let condition ← exprText g
      expectSign ")"
      pure ("FILTER (WHERE " ++ condition ++ ")")
    else pure ""
  let nulls ← if last.treatsNulls then pure "" else nullTreatment
  let window ← if ← takeKeyword "OVER" then
      if ← takeSign "(" then pure ("OVER " ++ (← windowRest g))
      else pure ("OVER " ++ (← ident).text)
    else pure ""
  return parameters ++ spaced [last.text, group, filter, nulls, window]

/-- Reads the rest of a call behind the name of the function. -/
def call (g : Grammar) (name : String) : Parse Expr := return .access (name ++ (← callRest g))

end JoinGraph.Sql.Grammar
