import JoinGraph.Sql.Table

/-!
# SELECT

A SELECT reads rows from the FROM list, keeps those that fulfil a condition, and yields the
columns of the SELECT list. Of the other clauses only the text is kept.
-/

namespace JoinGraph.Sql.Grammar

open Parse

/-! ## The SELECT list -/

/-- Reads names, in parentheses or a single one. -/
def oneOrMore (g : Grammar) (entry : Parse String) : Parse String := do
  if ← isSign "(" then return inParentheses (commaText (← parenthesized (g.list entry)))
  else entry

/-- Reads which columns of a wildcard are excluded, if any are. -/
def excluded (g : Grammar) : Parse String := clause "EXCLUDE" (oneOrMore g (Ident.text <$> ident))

/-- Reads which columns of a wildcard are left out, filtered, replaced or renamed. -/
def wildcardOptions (g : Grammar) : Parse String := do
  let d := g.dialect
  let filter ← if d.wildcardRename then
      clause "ILIKE" do
        match ← peek? with
        | some (.string .single text) =>
          advance
          return quoted '\'' text
        | _ => expected "ilike pattern"
    else pure ""
  let excluded ← if filter.isEmpty && d.wildcardExclude then excluded g else pure ""
  let omitted ← if d.wildcardExcept then
      clause "EXCEPT" do
        if ← isSign "(" then
          return inParentheses (commaText (← parenthesized (g.list (Ident.text <$> ident))))
        else return inParentheses (← ident).text
    else pure ""
  let replaced ← if d.wildcardReplace then
      clause "REPLACE" do
        unless ← isSign "(" do expected "( after REPLACE but"
        return inParentheses <| commaText <| ← parenthesized <| g.list do
          let value ← exprText g
          let _ ← takeKeyword "AS"
          return value ++ " AS " ++ (← ident).text
    else pure ""
  let renamed ← if d.wildcardRename then
      clause "RENAME" <| oneOrMore g do
        let column ← ident
        expectKeyword "AS"
        return column.text ++ " AS " ++ (← ident).text
    else pure ""
  return blankBefore (spaced [filter, excluded, omitted, replaced, renamed])

/-- An entry of the SELECT list that is read as an equation, where equations name columns. -/
def equationItem? (d : Dialect) : Expr → Option Item
  | .binary "=" (.column [name]) right =>
      if d.equalsAlias then some (.expr right (some name)) else none
  | _ => none

/-- Whether an expression is the bare word `FROM`. -/
def isBareFrom : Expr → Bool
  | .column [⟨name, none⟩] => Text.equalFold name "from"
  | _ => false

/-- Reads an entry of the SELECT list. -/
def item (g : Grammar) : Parse Item := do
  let root ← if g.dialect == .snowflake then optionalWords ["CONNECT_BY_ROOT"] else pure ""
  match ← wildcardOrExpr g with
  | .wildcard _ => return .wildcard (← wildcardOptions g)
  | .tableWildcard text => return .tableWildcard (text ++ (← wildcardOptions g))
  | .expr value _ =>
    if isBareFrom value then complain ("Expected an expression, found: " ++ value.text)
    match equationItem? g.dialect value with
    | some item => return item
    | none =>
      if g.dialect.memberWildcard && (← isSign ".") && (← signAhead 1 "*") then
        advance
        advance
        return .tableWildcard (value.text ++ ".*" ++ (← wildcardOptions g))
      else
        let name ← aliasWhere (mayNameColumn g.dialect)
        let value := if root.isEmpty then value else .phrase ("CONNECT_BY_ROOT " ++ value.text)
        return .expr value name

/-- Reads a SELECT list. -/
def items (g : Grammar) : Parse (List Item) :=
  if g.dialect.trailingCommaInProjection then
    listUntil (endsListWith fun tokens => !mayNameColumn g.dialect tokens) (item g)
  else listUntil noComma (item g)

/-- Reads a FROM list. -/
def sources (g : Grammar) : Parse (List Source) :=
  if g.dialect.trailingCommas then
    let ends (tokens : List Lexeme) : Bool :=
      ["INTO", "LIMIT", "HAVING", "WHERE"].contains (keywordAt 0 tokens)
    listUntil (endsListWith ends) (source g)
  else listUntil noComma (source g)

/-! ## Clauses -/

/-- Reads how many rows are kept, behind `TOP`. -/
def top (g : Grammar) : Parse String := do
  let quantity ← if ← isSign "(" then inParentheses <$> parenthesized (exprText g) else natural
  let percent ← optionalWords ["PERCENT"]
  return quantity ++ percent ++ (← optionalWords ["WITH", "TIES"])

/-- Reads whether equal rows are kept, if that is said. -/
def distinctRows (g : Grammar) : Parse String := do
  let tokens ← get
  let all ← takeKeyword "ALL"
  unless ← takeKeyword "DISTINCT" do return ""
  if all then
    set tokens
    complain "Cannot specify both ALL and DISTINCT"
  unless ← takeKeyword "ON" do return "DISTINCT"
  let columns ← parenthesized do
    if ← isSign ")" then return "" else g.exprTexts
  return "DISTINCT ON " ++ inParentheses columns

/-- Reads a list of values that rows are grouped by; `lifts` allows a single one without
parentheses. -/
def groupingSet (g : Grammar) (lifts : Bool) : Parse (List String) := do
  if lifts && !(← isSign "(") then return [← exprText g]
  else parenthesized do
    if ← isSign ")" then return [] else g.list (exprText g)

/-- Reads sets of values that rows are grouped by. -/
def groupingSets (g : Grammar) (word : String) (lifts : Bool) : Parse String := do
  let sets ← parenthesized (g.list (groupingSet g lifts))
  let text (set : List String) : String := match lifts, set with
    | true, [single] => single
    | _, set => inParentheses (commaText set)
  return word ++ " " ++ inParentheses (commaText (sets.map text))

/-- Reads a value that rows are grouped by. -/
def groupKey (g : Grammar) : Parse String := do
  if !g.dialect.groupingExpressions then exprText g
  else if ← takeKeywords ["GROUPING", "SETS"] then groupingSets g "GROUPING SETS" false
  else if ← takeKeyword "CUBE" then groupingSets g "CUBE" true
  else if ← takeKeyword "ROLLUP" then groupingSets g "ROLLUP" true
  else if (← isSign "(") && (← signAhead 1 ")") then
    advance
    advance
    return "()"
  else exprText g

/-- Reads what rows are grouped by, if that is said. -/
def groupBy (g : Grammar) : Parse String := do
  unless ← takeKeywords ["GROUP", "BY"] do return ""
  let keys ← if ← takeKeyword "ALL" then pure "ALL" else commaText <$> g.list (groupKey g)
  let modifiers ← if g.dialect.groupModifiers then
      repeatFrom "" fun text => do
        if ← takeKeyword "WITH" then
          return some (text ++ " WITH " ++ (← expectOneOf ["ROLLUP", "CUBE", "TOTALS"]))
        else return none
    else pure ""
  let sets ← if ← takeKeywords ["GROUPING", "SETS"] then groupingSets g "GROUPING SETS" false
    else pure ""
  return "GROUP BY " ++ keys ++ modifiers ++ blankBefore sets

/-- Reads one view of the rows of a value, if one follows. -/
def lateralView (g : Grammar) : Parse (Option String) := do
  unless ← takeKeywords ["LATERAL", "VIEW"] do return none
  let outer ← optionalWords ["OUTER"]
  let value ← exprText g
  let name ← objectName g false
  let mayName (tokens : List Lexeme) : Bool :=
    !(["WHERE", "GROUP", "CLUSTER", "HAVING", "LATERAL"].contains (keywordAt 0 tokens))
  let columns := (← g.list (aliasWhere mayName)).filterMap id
  let named := if columns.isEmpty then "" else "AS " ++ commaText (columns.map Ident.text)
  return some (spaced ["LATERAL VIEW" ++ outer, value, nameText name, named])

/-- Reads a named window. -/
def namedWindow (g : Grammar) : Parse String := do
  let name ← ident
  expectKeyword "AS"
  let window ← if ← takeSign "(" then windowRest g
    else if g.dialect.windowReference then Ident.text <$> ident
    else expected "("
  return name.text ++ " AS " ++ window

/-- Reads windows and the condition on them, in either order. -/
def windowsAndQualify (g : Grammar) : Parse String := do
  let windows : Parse String := clause "WINDOW" (commaText <$> g.list (namedWindow g))
  let qualify : Parse String := clause "QUALIFY" (exprText g)
  let windowsFirst ← windows
  let condition ← qualify
  let windowsLast ← if windowsFirst.isEmpty then windows else pure ""
  return spaced [windowsFirst, condition, windowsLast]

/-- Reads how rows are connected into trees, if they are. The roots may be told before or behind. -/
def hierarchy (g : Grammar) : Parse String := do
  unless g.dialect.connectBy && (← isOneOf ["START", "CONNECT"]) do return ""
  let roots : Parse String := do
    expectKeywords ["START", "WITH"]
    return "START WITH " ++ (← exprText g)
  let connections : Parse String := do
    return "CONNECT BY " ++ commaText ((← g.list g.connection).map Expr.text)
  if ← takeKeywords ["CONNECT", "BY"] then
    let connections ← connections
    return (← roots) ++ " " ++ connections
  else
    let roots ← roots
    expectKeywords ["CONNECT", "BY"]
    return roots ++ " " ++ (← connections)

/-- Reads a list behind two keywords, if they are there. -/
def listBy (g : Grammar) (word : String) (entry : Parse String) : Parse String := do
  if ← takeKeywords [word, "BY"] then return word ++ " BY " ++ commaText (← g.list entry)
  else return ""

/-- Reads the table that rows are put into, behind `INTO`. -/
def target (g : Grammar) : Parse String := do
  let lifetime := (← takeOneOf ["TEMP", "TEMPORARY"]).getD ""
  let unlogged := (← takeOneOf ["UNLOGGED"]).getD ""
  let table := (← takeOneOf ["TABLE"]).getD ""
  let name ← objectName g false
  return spaced [if lifetime.isEmpty then "" else "TEMPORARY", unlogged, table, nameText name]

/-! ## The statement -/

/-- Reads how rows become values, if that is said. -/
def rowValues (g : Grammar) : Parse String := do
  unless g.dialect == .bigquery do return ""
  let forms := [["DISTINCT", "AS", "VALUE"], ["DISTINCT", "AS", "STRUCT"], ["ALL", "AS", "VALUE"],
    ["ALL", "AS", "STRUCT"], ["AS", "VALUE"], ["AS", "STRUCT"]]
  match forms.find? (beginWith · (← get)) with
  | some words =>
    modify (List.drop words.length)
    return " ".intercalate (words.filter (· != "ALL"))
  | none => return ""

/-- The text of a FROM list. -/
def fromText (sources : List Source) : String :=
  if sources.isEmpty then "" else "FROM " ++ commaText (sources.map Source.text)

/-- Reads what follows `SELECT`; `first` is the FROM list that stood before it, if one did. -/
def selectRest (g : Grammar) (first : Option (List Source)) : Parse Select := do
  let d := g.dialect
  let values ← rowValues g
  let topBefore ← if d.topFirst then clause "TOP" (top g) else pure ""
  let distinct ← distinctRows g
  let topBehind ← if d.topFirst then pure "" else clause "TOP" (top g)
  let isEmpty := d.emptyProjection && (← isKeyword "FROM")
  let items ← if isEmpty then pure [] else items g
  let excluded ← if d.selectExclude then excluded g else pure ""
  let into ← clause "INTO" (target g)
  let sources ← match first with
    | some sources => pure sources
    | none => if ← takeKeyword "FROM" then sources g else pure []
  let views ← repeatFrom [] fun taken => do
    return (← lateralView g).map (· :: taken)
  let before ← if d.columnStoreClauses then clause "PREWHERE" (exprText g) else pure ""
  let condition? ← if ← takeKeyword "WHERE" then some <$> g.anyExpr else pure none
  let groups ← groupBy g
  let clusters ← listBy g "CLUSTER" (exprText g)
  let distribution ← listBy g "DISTRIBUTE" (exprText g)
  let sorting ← listBy g "SORT" (orderKey g)
  let having ← clause "HAVING" (exprText g)
  let windows ← windowsAndQualify g
  let tree ← hierarchy g
  let condition := match condition? with
    | some e => "WHERE " ++ e.text
    | none => ""
  let text := spaced ([if first.isSome then fromText sources else "", "SELECT", values, topBefore,
    distinct, topBehind, commaText (items.map Item.text), excluded, into,
    if first.isSome then "" else fromText sources] ++ views.reverse ++ [before, condition, groups,
    clusters, distribution, sorting, having, windows, tree])
  return ⟨items, sources, condition?, text⟩

/-- Reads a SELECT. The FROM list may stand first, and alone. -/
def select (g : Grammar) : Parse Select := do
  if ← onlyIf g.dialect.fromFirst (takeKeyword "FROM") then
    let sources ← sources g
    if ← takeKeyword "SELECT" then selectRest g (some sources)
    else return ⟨[], sources, none, fromText sources⟩
  else
    expectKeyword "SELECT"
    selectRest g none

end JoinGraph.Sql.Grammar
