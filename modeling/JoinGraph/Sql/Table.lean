import JoinGraph.Sql.Expression

/-!
# Tables and joins

An entry of the FROM list is a factor and what is joined to it. A factor is a named table, a
query, a function that yields rows, or other joined tables in parentheses. What the special
functions and the rearrangements of rows hold in their parentheses is taken as it stands.
-/

namespace JoinGraph.Sql.Grammar

open Parse

/-! ## Clauses of a table -/

/-- Reads the columns of an alias. -/
def aliasColumns (g : Grammar) : Parse (List String) := do
  unless ← isSign "(" do return []
  parenthesized <| g.list do
    let name ← ident
    let type ← maybe (dataType g)
    return spaced [name.text, (type.map DataType.text).getD ""]

/-- Reads the alias of a table, if there is one. -/
def tableAlias (g : Grammar) : Parse (Option Alias) := do
  match ← aliasWhere (mayNameTable g.dialect) with
  | some name => return some ⟨name, ← aliasColumns g⟩
  | none => return none

/-- Reads settings, if there are any. -/
def settings (g : Grammar) : Parse String := do
  if g.dialect.columnStoreClauses then
    clause "SETTINGS" do
      let entries ← g.list do
        let key ← ident
        expectSign "="
        return key.text ++ " = " ++ (← exprText g)
      return commaText entries
  else return ""

/-- Reads the arguments of a function that yields rows, behind the opening parenthesis. -/
def rowArguments (g : Grammar) : Parse String := do
  if ← takeSign ")" then return "()"
  let (texts, _) ← repeatFrom ([], false) fun (texts, isDone) => do
    if isDone then return none
    let settings ← settings g
    if settings.isEmpty then
      let text ← argument g
      return some (text :: texts, ← endsList g.dialect)
    else return some (settings :: texts, true)
  expectSign ")"
  return inParentheses (commaText texts.reverse)

/-- Reads which state of a table is meant, if that is said. -/
def tableVersion (g : Grammar) : Parse String := do
  if !g.dialect.tableVersions then return ""
  else if ← takeKeywords ["FOR", "SYSTEM_TIME", "AS", "OF"] then
    return "FOR SYSTEM_TIME AS OF " ++ (← exprText g)
  else if ← isOneOf ["AT", "BEFORE"] then
    let name ← objectName g true
    return nameText name ++ (← callRest g)
  else return ""

/-- Reads how much of a table is sampled. -/
def sampleSize (g : Grammar) : Parse String := do
  if ← takeKeyword "BUCKET" then
    let bucket ← value g
    expectKeywords ["OUT", "OF"]
    let total ← value g
    let on ← clause "ON" (exprText g)
    return spaced ["BUCKET", bucket.text, "OUT OF", total.text, on]
  let size ← match ← maybe (exprText g) with
    | some text => pure text
    | none =>
      match ← peek? with
      | some (.word text _) =>
        advance
        pure text
      | _ =>
        advance
        complain "Expecting number or byte length e.g. 100M"
  return spaced [size, (← takeOneOf ["ROWS", "PERCENT"]).getD ""]

/-- Reads which sample of a table is meant, if that is said. -/
def tableSample (g : Grammar) : Parse String := do
  match ← takeOneOf ["TABLESAMPLE", "SAMPLE"] with
  | none => return ""
  | some word =>
    let method := (← takeOneOf ["BERNOULLI", "ROW", "SYSTEM", "BLOCK"]).getD ""
    let size ← if ← isSign "(" then inParentheses <$> parenthesized (sampleSize g) else sampleSize g
    let seed ← match ← takeOneOf ["REPEATABLE", "SEED"] with
      | some word => do
        let seed ← parenthesized (value g)
        pure (word ++ " " ++ inParentheses seed.text)
      | none => pure ""
    return spaced [word, method, size, seed, ← clause "OFFSET" (exprText g)]

/-- Reads an advice on the use of an index. -/
def indexHint : Parse String := do
  let advice ← expectOneOf ["USE", "IGNORE", "FORCE"]
  let index ← expectOneOf ["INDEX", "KEY"]
  let purpose ← if ← takeKeyword "FOR" then do
      if ← takeKeyword "JOIN" then pure "FOR JOIN"
      else if ← takeKeywords ["ORDER", "BY"] then pure "FOR ORDER BY"
      else
        expectKeywords ["GROUP", "BY"]
        pure "FOR GROUP BY"
    else pure ""
  let names ← parenthesized do
    if ← isSign ")" then return []
    else listUntil noComma (Ident.text <$> ident)
  return spaced [advice, index, purpose, inParentheses (commaText names)]

/-- Reads advice on the use of indexes, if there is any. -/
def indexAdvice (g : Grammar) : Parse String := do
  unless g.dialect.indexHints do return ""
  let hints ← repeatFrom [] fun taken => do
    match ← maybe indexHint with
    | some hint => return some (hint :: taken)
    | none => return none
  return spaced hints.reverse

/-- Reads advice in parentheses behind `WITH`, if there is any. -/
def withAdvice (g : Grammar) : Parse String := do
  if (← isKeyword "WITH") && (← signAhead 1 "(") then
    advance
    return "WITH " ++ inParentheses (← parenthesized g.exprTexts)
  else return ""

/-! ## Factors -/

/-- Reads how the rows of a factor are rearranged, if they are. -/
def rearranged (g : Grammar) (factor : Factor) : Parse Factor :=
  repeatFrom factor fun factor => do
    let words := ["PIVOT", "UNPIVOT"] ++ if g.dialect.rowPatterns then ["MATCH_RECOGNIZE"] else []
    match ← takeOneOf words with
    | some word =>
      let nulls ← if word == "UNPIVOT" then do
          match ← takeOneOf ["INCLUDE", "EXCLUDE"] with
          | some side =>
            expectKeyword "NULLS"
            pure (side ++ " NULLS")
          | none => pure ""
        else pure ""
      let body ← balanced
      let text := spaced [factor.text, word, nulls, body]
      return some ⟨.rows text, "", ← tableAlias g, ""⟩
    | none => return none

/-- Reads a factor that is given by a text and an alias. -/
def rowsFactor (g : Grammar) (text : String) : Parse Factor :=
  return ⟨.rows text, "", ← tableAlias g, ""⟩

/-- Reads a query as a factor behind the opening parenthesis. -/
def queryFactor (g : Grammar) (lateral : String) : Parse Factor := do
  let query ← g.query
  expectSign ")"
  rowsFactor g (lateral ++ inParentheses query.text)

/-- Reads lists of values. -/
def valueRows (g : Grammar) (mayBeEmpty : Bool) : Parse String := do
  let rows ← g.list do
    let word := if ← takeKeyword "ROW" then "ROW" else ""
    parenthesized do
      if mayBeEmpty && (← isSign ")") then return word ++ "()"
      else return word ++ inParentheses (← g.exprTexts)
  return commaText rows

/-- Reads a list of values behind `UNNEST` as a factor. -/
def unnested (g : Grammar) : Parse Factor := do
  let lists ← parenthesized g.exprTexts
  let ordinality ← optionalWords ["WITH", "ORDINALITY"]
  let name ← tableAlias g
  let offset ← optionalWords ["WITH", "OFFSET"]
  let mayName (tokens : List Lexeme) : Bool := !columnReserved.contains (keywordAt 0 tokens)
  let offsetName ← if offset.isEmpty then pure none else aliasWhere mayName
  let named := match offsetName with
    | some i => " AS " ++ i.text
    | none => ""
  return ⟨.rows ("UNNEST" ++ inParentheses lists), ordinality, name, offset ++ named⟩

/-- Reads a named table, or a function that is called like one. -/
def namedFactor (g : Grammar) : Parse Factor := do
  let d := g.dialect
  let name ← objectName g true
  let path ← if d.pathAccess && (← isSign "[") then memberPath g else pure ""
  let partitions ← if d.tablePartitions then
      clause "PARTITION" do
        return inParentheses (commaText (← parenthesized (g.list (Ident.text <$> ident))))
    else pure ""
  let version ← tableVersion g
  let rows ← if ← takeSign "(" then rowArguments g else pure ""
  let ordinality ← optionalWords ["WITH", "ORDINALITY"]
  let sampleBefore ← if d.samplesBeforeAlias then tableSample g else pure ""
  let alias? ← tableAlias g
  let hints ← indexAdvice g
  let advice ← withAdvice g
  let sampleBehind ← if d.samplesBeforeAlias then pure "" else tableSample g
  rearranged g
    ⟨.table name, path ++ blankBefore partitions ++ rows ++ ordinality ++ blankBefore sampleBefore,
      alias?, blankBefore (spaced [hints, advice, version, sampleBehind])⟩

/-- The functions that yield rows and have arguments of their own. -/
def rowFunctions (d : Dialect) : List String :=
  ["JSON_TABLE", "OPENJSON", "XMLTABLE"] ++ if d == .snowflake then ["SEMANTIC_VIEW"] else []

/-- Closes a factor in parentheses, of which `source` was read. -/
def groupedFactor (g : Grammar) (source : Source) : Parse Factor := do
  let isJoined := match source.joins, source.factor.origin with
    | _ :: _, _ => true
    | [], .joined _ => true
    | [], _ => false
  if isJoined then
    expectSign ")"
    return ⟨.joined source.text, "", ← tableAlias g, ""⟩
  else if g.dialect.parenthesizedTable then
    expectSign ")"
    match ← tableAlias g, source.factor.alias? with
    | some _, some inner => complainPlainly ("duplicate alias " ++ inner.text)
    | some outer, none => return { source.factor with alias? := some outer }
    | none, _ => return source.factor
  else expected "joined table"

/-- Reads a factor. `inner` reads an entry of a FROM list inside of parentheses. -/
def factor (g : Grammar) (inner : Parse Source) : Parse Factor := do
  let d := g.dialect
  if ← takeKeyword "LATERAL" then
    if ← takeSign "(" then queryFactor g "LATERAL "
    else
      let name ← objectName g false
      expectSign "("
      let arguments ← commaListUntil d ")" (argument g)
      expectSign ")"
      rowsFactor g ("LATERAL " ++ nameText name ++ inParentheses (commaText arguments))
  else if ← takeKeyword "TABLE" then
    let rows ← parenthesized (exprText g)
    rowsFactor g ("TABLE" ++ inParentheses rows)
  else if ← takeSign "(" then
    match ← maybe (queryFactor g "") with
    | some found => rearranged g found
    | none => groupedFactor g (← inner)
  else if d.valuesAsTable && (← isKeyword "VALUES") && (← signAhead 1 "(") then
    advance
    rowsFactor g (inParentheses ("VALUES " ++ (← valueRows g false)))
  else if ← onlyIf d.unnestTable (takeKeyword "UNNEST") then unnested g
  else if (← isOneOf (rowFunctions d)) && (← signAhead 1 "(") then
    let word := keywordAt 0 (← get)
    advance
    rowsFactor g (word ++ (← balanced))
  else namedFactor g

/-! ## Joins -/

/-- Reads which rows are joined. -/
def joinConstraint (g : Grammar) (isNatural : Bool) : Parse JoinConstraint := do
  if isNatural then return .natural
  else if ← takeKeyword "ON" then return .on (← g.anyExpr)
  else if ← takeKeyword "USING" then
    return .shared (← parenthesized (g.list (nameText <$> objectName g true)))
  else return .none

/-- Reads the words of a join that has a constraint. -/
def joinKind (isNatural : Bool) : Parse (Option JoinKind) := do
  let sided (side : String) (plain withOuter withSemi withAnti : JoinKind) :
      Parse (Option JoinKind) := do
    advance
    match ← takeOneOf ["OUTER", "SEMI", "ANTI", "JOIN"] with
    | some "JOIN" => return some plain
    | some word =>
      expectKeyword "JOIN"
      return some (if word == "OUTER" then withOuter else if word == "SEMI" then withSemi
        else withAnti)
    | none => complainPlainly ("expected OUTER, SEMI, ANTI or JOIN after " ++ side)
  let joined (kind : JoinKind) : Parse (Option JoinKind) := do
    advance
    expectKeyword "JOIN"
    return some kind
  match keywordAt 0 (← get) with
  | "JOIN" =>
    advance
    return some .join
  | "INNER" => joined .inner
  | "LEFT" => sided "LEFT" .left .leftOuter .leftSemi .leftAnti
  | "RIGHT" => sided "RIGHT" .right .rightOuter .rightSemi .rightAnti
  | "ANTI" => joined .anti
  | "SEMI" => joined .semi
  | "FULL" =>
    advance
    let _ ← takeKeyword "OUTER"
    expectKeyword "JOIN"
    return some .full
  | "OUTER" => expected "LEFT, RIGHT, or FULL"
  | "STRAIGHT_JOIN" =>
    advance
    return some .straight
  | _ => if isNatural then expected "a join type after NATURAL" else return none

/-- Reads a join, if one follows. `joins` reads the joins of a factor that groups to the right. -/
def joinStep (g : Grammar) (inner : Parse Source) (joins : Parse (List Join)) :
    Parse (Option Join) := do
  let isGlobal ← takeKeyword "GLOBAL"
  if ← takeKeyword "CROSS" then
    if ← takeKeyword "JOIN" then
      let factor ← factor g inner
      let constraint ← if g.dialect.crossJoinCondition then joinConstraint g false else pure .none
      return some ⟨isGlobal, .cross, factor, constraint⟩
    else if ← takeKeyword "APPLY" then
      return some ⟨isGlobal, .crossApply, ← factor g inner, .none⟩
    else expected "JOIN or APPLY after CROSS"
  else if ← takeKeyword "OUTER" then
    expectKeyword "APPLY"
    return some ⟨isGlobal, .outerApply, ← factor g inner, .none⟩
  else if ← takeKeyword "ASOF" then
    expectKeyword "JOIN"
    let factor ← factor g inner
    expectKeyword "MATCH_CONDITION"
    let condition ← parenthesized g.anyExpr
    return some ⟨isGlobal, .nearest condition, factor, ← joinConstraint g false⟩
  else
    let isNatural ← takeKeyword "NATURAL"
    match ← joinKind isNatural with
    | none => return none
    | some kind =>
      let first ← factor g inner
      let groupsRight := !g.dialect.joinsGroupLeft
        && (← isOneOf ["JOIN", "INNER", "LEFT", "RIGHT", "FULL"])
      let factor ← if groupsRight then do
          pure ⟨.joined (Source.text ⟨first, ← joins⟩), "", none, ""⟩
        else pure first
      return some ⟨isGlobal, kind, factor, ← joinConstraint g isNatural⟩

/-- Reads joins; those that group to the right are nested at most `fuel` deep. -/
def joinsWithin (g : Grammar) (inner : Parse Source) : (fuel : Nat) → Parse (List Join)
  | 0 => return []
  | fuel + 1 => do
    let joins ← repeatFrom [] fun taken => do
      match ← joinStep g inner (joinsWithin g inner fuel) with
      | some join => return some (join :: taken)
      | none => return none
    return joins.reverse

/-- Reads an entry of a FROM list whose parentheses are nested at most `fuel` deep. -/
def sourceWithin (g : Grammar) : (fuel : Nat) → Parse Source
  | 0 => expected "joined table"
  | fuel + 1 => do
    let first ← factor g (sourceWithin g fuel)
    return ⟨first, ← joinsWithin g (sourceWithin g fuel) ((← get).length + 1)⟩

/-- Reads an entry of a FROM list. -/
def source (g : Grammar) : Parse Source := do sourceWithin g ((← get).length + 1)

end JoinGraph.Sql.Grammar
