import JoinGraph.Sql.Query

/-!
# Statements and scripts

A script is a list of statements with semicolons between them. Of statements that are no queries
only the outline is checked, since nothing of them is drawn; what the grammar does not look into
is taken as it stands.
-/

namespace JoinGraph.Sql.Grammar

open Parse

/-- The first words of statements that are taken as they stand. -/
def plainCommands : List String :=
  ["KILL", "FLUSH", "ANALYZE", "CASE", "IF", "WHILE", "RAISE", "TRUNCATE", "ATTACH", "MSCK",
    "CACHE", "DISCARD", "DECLARE", "FETCH", "REPLACE", "UNCACHE", "ALTER", "CALL", "COPY", "OPEN",
    "CLOSE", "SET", "SHOW", "USE", "GRANT", "DENY", "REVOKE", "START", "SAVEPOINT", "RELEASE",
    "RAISERROR", "ASSERT", "DEALLOCATE", "EXECUTE", "EXEC", "PREPARE", "MERGE", "PRAGMA", "UNLOAD",
    "RENAME", "LOAD", "COMMENT", "PRINT", "EXPORT", "RESET"]

/-- The first words of statements that may consist of a single word. -/
def loneCommands : List String := ["BEGIN", "COMMIT", "ROLLBACK", "END", "VACUUM", "RETURN"]

/-- Reads the condition of a change, and what the change yields. -/
def changeRest (g : Grammar) : Parse Unit := do
  if ← takeKeyword "WHERE" then
    let _ ← g.anyExpr
  if ← takeKeyword "RETURNING" then
    let _ ← items g
  let _ ← orderBy g
  let _ ← clause "LIMIT" (exprText g)

/-- Reads an update behind its first word. -/
def update (g : Grammar) : Parse Unit := do
  if ← takeKeyword "OR" then
    let _ ← expectOneOf ["REPLACE", "ROLLBACK", "ABORT", "FAIL", "IGNORE"]
  let _ ← source g
  if ← takeKeyword "FROM" then
    let _ ← sources g
  expectKeyword "SET"
  let _ ← g.list (assignment g)
  if ← takeKeyword "FROM" then
    let _ ← sources g
  changeRest g

/-- Reads a deletion behind its first word. -/
def deletion (g : Grammar) : Parse Unit := do
  unless ← takeKeyword "FROM" do
    unless g.dialect == .bigquery || g.dialect == .generic do
      let _ ← g.list (objectName g false)
      expectKeyword "FROM"
  let _ ← g.list (source g)
  if ← takeKeyword "USING" then
    let _ ← g.list (source g)
  changeRest g

/-- Reads an insertion behind its first word. -/
def insertion (g : Grammar) : Parse Unit := do
  if ← takeKeyword "OR" then
    let _ ← expectOneOf ["REPLACE", "ROLLBACK", "ABORT", "FAIL", "IGNORE"]
  let _ ← takeKeyword "IGNORE"
  let _ ← takeOneOf ["INTO", "OVERWRITE"]
  let _ ← takeKeyword "TABLE"
  let _ ← objectName g false
  if ← onlyIf (g.dialect == .postgres) (takeKeyword "AS") then
    let _ ← ident
  unless ← takeKeywords ["DEFAULT", "VALUES"] do
    if (← isSign "(") && !(["SELECT", "WITH"].contains (keywordAt 1 (← get))) then
      let _ ← parenthesized (commaListUntil g.dialect ")" (objectName g false))
    if ← takeKeyword "SET" then
      let _ ← g.list (assignment g)
    else
      let _ ← g.query
  if ← isKeyword "ON" then
    let _ ← statementRest
  if ← takeKeyword "RETURNING" then
    let _ ← items g

/-- Reads a definition behind its first word. -/
def definition (g : Grammar) : Parse Unit := do
  let _ ← takeKeywords ["OR", "REPLACE"]
  let _ ← takeOneOf ["TEMP", "TEMPORARY", "GLOBAL", "LOCAL", "EXTERNAL", "TRANSIENT",
    "MATERIALIZED", "UNIQUE", "VIRTUAL", "SECURE", "DYNAMIC"]
  let _ ← takeOneOf ["TEMP", "TEMPORARY"]
  match ← takeOneOf ["TABLE", "VIEW"] with
  | some word =>
    let _ ← takeKeywords ["IF", "NOT", "EXISTS"]
    let _ ← objectName g true
    if word == "VIEW" then
      if ← isSign "(" then
        let _ ← balanced
      expectKeyword "AS"
      let _ ← g.query
    else if ← isSign "(" then
      let _ ← balanced
    let _ ← statementRest
  | none =>
    let _ ← expectOneOf ["INDEX", "SCHEMA", "DATABASE", "FUNCTION", "PROCEDURE", "TRIGGER",
      "SEQUENCE", "TYPE", "ROLE", "USER", "EXTENSION", "DOMAIN", "POLICY", "STAGE", "MACRO",
      "SECRET", "SERVER", "CONNECTOR", "OPERATOR"]
    let _ ← statementRest

/-- Reads a removal behind its first word. -/
def removal (g : Grammar) : Parse Unit := do
  let _ ← takeOneOf ["TEMPORARY", "MATERIALIZED"]
  let _ ← expectOneOf ["TABLE", "VIEW", "INDEX", "SCHEMA", "DATABASE", "FUNCTION", "PROCEDURE",
    "TRIGGER", "SEQUENCE", "TYPE", "ROLE", "USER", "EXTENSION", "DOMAIN", "POLICY", "STAGE",
    "MACRO", "SECRET", "STREAM", "CONNECTOR"]
  let _ ← takeKeywords ["IF", "EXISTS"]
  let _ ← g.list (objectName g false)
  let _ ← statementRest

/-- Reads what is explained. `inner` reads a statement. -/
def explanation (g : Grammar) (inner : Parse Statement) : Parse Unit := do
  if ← isSign "(" then
    if g.dialect == .postgres || g.dialect == .duckdb || g.dialect == .generic then
      let _ ← balanced
  else
    unless ← eitherOf (takeKeywords ["QUERY", "PLAN"]) (takeKeyword "ESTIMATE") do
      let _ ← takeKeyword "ANALYZE"
      let _ ← takeKeyword "VERBOSE"
      if ← takeKeyword "FORMAT" then
        let _ ← takeSign "="
        let _ ← expectOneOf ["TEXT", "JSON", "GRAPHVIZ", "TREE", "TRADITIONAL"]
  match ← maybe inner with
  | some _ => return ()
  | none =>
    let _ ← takeOneOf ["EXTENDED", "FORMATTED"]
    let _ ← takeKeyword "TABLE"
    let _ ← objectName g false

/-- Reads a statement with some levels left. -/
def statement (d : Dialect) : (level : Nat) → Parse Statement
  | 0 => throw .tooDeep
  | level + 1 => do
    let g := grammar d false level
    let command (rest : Parse Unit) : Parse Statement := do
      advance
      rest
      return .other
    let word := keywordAt 0 (← get)
    if ["SELECT", "WITH", "VALUES", "FROM"].contains word || (← isSign "(") then
      return .query (← g.query)
    else if ["EXPLAIN", "DESCRIBE", "DESC"].contains word then
      command (explanation g (statement d level))
    else if word == "UPDATE" then command (update g)
    else if word == "DELETE" then command (deletion g)
    else if word == "INSERT" then command (insertion g)
    else if word == "CREATE" then command (definition g)
    else if word == "DROP" then command (removal g)
    else if loneCommands.contains word then
      command do
        let _ ← statementRest
    else if plainCommands.contains word
        || (["DETACH", "INSTALL"].contains word && (d == .duckdb || d == .generic))
        || (word == "OPTIMIZE" && d.columnStoreClauses) then
      command do
        if (← peek?).isNone then expected "identifier"
        let _ ← statementRest
    else expected "an SQL statement"

/--
Reads a script. Between statements there are semicolons; a statement is also the last one if `END`
follows it.
-/
def script (d : Dialect) : Parse (List Statement) := do
  let (statements, _) ← repeatFrom ([], false) fun (taken, isEnded) => do
    if ← takeSign ";" then return some (taken, false)
    else if (← peek?).isNone || (isEnded && (← isKeyword "END")) then return none
    else if isEnded then expected "end of statement"
    else return some ((← statement d levels) :: taken, true)
  return statements.reverse

end JoinGraph.Sql.Grammar
