import JoinGraph.Sql.Call

/-!
# Expressions with a form of their own

Some words begin an expression that is no call: a case, a cast, an interval, a part of a date. All
of them are kept as text.
-/

namespace JoinGraph.Sql.Grammar

open Parse

/-! ## Dates -/

/-- The parts of a date that have a word in every dialect. -/
def dateParts : List String :=
  ["YEAR", "YEARS", "MONTH", "MONTHS", "WEEK", "WEEKS", "DAY", "DAYOFWEEK", "DAYOFYEAR", "DAYS",
    "DATE", "DATETIME", "HOUR", "HOURS", "MINUTE", "MINUTES", "SECOND", "SECONDS", "CENTURY",
    "DECADE", "DOY", "DOW", "EPOCH", "ISODOW", "ISOYEAR", "ISOWEEK", "JULIAN", "MICROSECOND",
    "MICROSECONDS", "MILLENIUM", "MILLENNIUM", "MILLISECOND", "MILLISECONDS", "NANOSECOND",
    "NANOSECONDS", "QUARTER", "TIME", "TIMEZONE", "TIMEZONE_ABBR", "TIMEZONE_HOUR",
    "TIMEZONE_MINUTE", "TIMEZONE_REGION"]

/-- The parts of a date that measure an interval. -/
def intervalUnits : List String :=
  dateParts.filter fun word =>
    !(["DAYOFWEEK", "DAYOFYEAR", "DATE", "DATETIME", "ISOWEEK", "TIME", "TIMEZONE_ABBR",
      "TIMEZONE_REGION"].contains word)

/-- Reads a part of a date. -/
def datePart (g : Grammar) : Parse String := do
  let word := keywordAt 0 (← get)
  if dateParts.contains word then
    advance
    if word == "WEEK" && (g.dialect == .bigquery || g.dialect == .generic) && (← isSign "(") then
      return "WEEK" ++ inParentheses (← parenthesized ident).text
    else return word
  else
    match ← peek? with
    | some (.word ..) =>
      if g.dialect.customDateParts then return (← ident).text else expected "date/time field"
    | some (.string .single _) =>
      if g.dialect.quotedDateParts then return (← ident).text else expected "date/time field"
    | _ => expected "date/time field"

/-- Reads the precisions of an interval of seconds, if they are there. -/
def secondPrecision : Parse String := do
  unless ← isSign "(" do return ""
  parenthesized do
    let precision ← natural
    if ← takeSign "," then return inParentheses (precision ++ ", " ++ (← natural))
    else return inParentheses precision

/-- Reads an interval behind its first word. -/
def interval (g : Grammar) : Parse Expr := do
  let amount ← Expr.text <$>
    (if g.dialect.intervalNeedsUnit then g.anyExpr else g.expr g.strengths.period)
  let hasUnit ← isOneOf intervalUnits
  if !hasUnit && g.dialect.intervalNeedsUnit then
    complain "INTERVAL requires a unit after the literal value"
  let unit ← if hasUnit then datePart g else pure ""
  let precision ← if unit == "SECOND" then secondPrecision else optionalSize
  let last ← if unit == "SECOND" then pure "" else clause "TO" do
    let last ← datePart g
    let fraction ← if last == "SECOND" then optionalSize else pure ""
    return spaced [last, fraction]
  return .phrase (spaced ["INTERVAL", amount, unit, precision, last])

/-- Reads the extraction of a part of a date. -/
def extraction (g : Grammar) : Parse Expr := parenthesized do
  let part ← datePart g
  if ← takeKeyword "FROM" then
    return .phrase ("EXTRACT(" ++ part ++ " FROM " ++ (← exprText g) ++ ")")
  else if (← takeSign ",") && (g.dialect == .snowflake || g.dialect == .generic) then
    return .phrase ("EXTRACT(" ++ part ++ ", " ++ (← exprText g) ++ ")")
  else complainPlainly "Expected 'FROM' or ','"

/-- Reads a rounding up or down. -/
def rounding (g : Grammar) (word : String) : Parse Expr := parenthesized do
  let operand ← exprText g
  if ← takeKeyword "TO" then
    return .phrase (word ++ inParentheses (operand ++ " TO " ++ (← datePart g)))
  else if ← takeSign "," then
    match ← value g with
    | .number digits isLong =>
      return .phrase (word ++ inParentheses
        (operand ++ ", " ++ (Literal.number digits isLong).text))
    | _ => complainPlainly "Scale field can only be of number type"
  else return .phrase (word ++ inParentheses operand)

/-! ## Cases and casts -/

/-- Reads a branch of a case behind `WHEN`. -/
def branch (g : Grammar) : Parse String := do
  let condition ← exprText g
  expectKeyword "THEN"
  return "WHEN " ++ condition ++ " THEN " ++ (← exprText g)

/-- Reads a case behind its first word. -/
def caseOf (g : Grammar) : Parse Expr := do
  let operand ← if ← takeKeyword "WHEN" then pure "" else do
    let operand ← exprText g
    expectKeyword "WHEN"
    pure operand
  let first ← branch g
  let branches ← repeatFrom [first] fun taken => do
    if ← takeKeyword "WHEN" then return some ((← branch g) :: taken) else return none
  let otherwise ← clause "ELSE" (exprText g)
  expectKeyword "END"
  return .phrase (spaced (["CASE", operand] ++ branches.reverse ++ [otherwise, "END"]))

/-- Reads a cast behind its first word. -/
def castOf (g : Grammar) (word : String) : Parse Expr := parenthesized do
  let operand ← exprText g
  expectKeyword "AS"
  let type ← dataType g
  let format ← clause "FORMAT" do
    let format := (← value g).text
    if ← takeKeywords ["AT", "TIME", "ZONE"] then
      return format ++ " AT TIME ZONE " ++ (← value g).text
    else return format
  return .phrase (word ++ inParentheses (operand ++ " AS " ++ type.text ++ blankBefore format))

/-- Reads a conversion behind its first word. -/
def conversion (g : Grammar) (word : String) : Parse Expr := parenthesized do
  if g.dialect.convertsTypeFirst then
    let type ← dataType g
    expectSign ","
    let operand ← exprText g
    let styles ← if ← takeSign "," then pure (", " ++ (← g.exprTexts)) else pure ""
    return .phrase (word ++ inParentheses (type.text ++ ", " ++ operand ++ styles))
  else
    let operand ← exprText g
    if ← takeKeyword "USING" then
      return .phrase (word ++ inParentheses
        (operand ++ " USING " ++ nameText (← objectName g false)))
    expectSign ","
    let type ← dataType g
    let charset ← if ← takeKeywords ["CHARACTER", "SET"] then
        pure (" CHARACTER SET " ++ nameText (← objectName g false))
      else pure ""
    return .phrase (word ++ inParentheses (operand ++ ", " ++ type.text ++ charset))

/-! ## Strings -/

/-- Reads a position in a string behind its first word, or a call of that name. -/
def position (g : Grammar) (word : String) : Parse Expr := do
  let found ← maybe <| parenthesized do
    let piece ← g.expr g.strengths.between
    expectKeyword "IN"
    return "POSITION(" ++ piece.text ++ " IN " ++ (← exprText g) ++ ")"
  match found with
  | some text => return .phrase text
  | none => call g word

/-- Reads a part of a string behind its first word. -/
def substring (g : Grammar) (word : String) : Parse Expr := parenthesized do
  let operand ← exprText g
  let start ← if ← takeSign "," then pure (", " ++ (← exprText g))
    else if ← takeKeyword "FROM" then pure (" FROM " ++ (← exprText g))
    else pure ""
  let isCall := start.startsWith ","
  let length ← if ← eitherOf (takeKeyword "FOR") (takeSign ",") then
      pure ((if isCall then ", " else " FOR ") ++ (← exprText g))
    else pure ""
  return .phrase (word ++ inParentheses (operand ++ start ++ length))

/-- Reads a replacement of a part of a string behind its first word. -/
def overlay (g : Grammar) : Parse Expr := parenthesized do
  let operand ← exprText g
  expectKeyword "PLACING"
  let piece ← exprText g
  expectKeyword "FROM"
  let start ← exprText g
  let length ← clause "FOR" (exprText g)
  return .phrase ("OVERLAY" ++ inParentheses
    (operand ++ " PLACING " ++ piece ++ " FROM " ++ start ++ blankBefore length))

/-- Reads a trimmed string behind its first word. -/
def trimming (g : Grammar) : Parse Expr := parenthesized do
  let side := (← takeOneOf ["BOTH", "LEADING", "TRAILING"]).getD ""
  let operand ← exprText g
  let trimmed ← if ← takeKeyword "FROM" then do
      pure (spaced [side, operand, "FROM", ← exprText g])
    else if ← onlyIf g.dialect.trimList (takeSign ",") then do
      pure (operand ++ ", " ++ (← g.exprTexts))
    else pure (spaced [side, operand])
  return .phrase ("TRIM" ++ inParentheses trimmed)

/-- Reads a search of a text behind its first word. -/
def search (g : Grammar) : Parse Expr := do
  let columns ← parenthesized (g.list (nameText <$> objectName g false))
  expectKeyword "AGAINST"
  parenthesized do
    let text ← value g
    let modes := [["IN", "NATURAL", "LANGUAGE", "MODE"], ["WITH", "QUERY", "EXPANSION"],
      ["IN", "BOOLEAN", "MODE"]]
    let mode ← modes.foldlM (fun mode words => do return mode ++ (← optionalWords words)) ""
    return .phrase ("MATCH " ++ inParentheses (commaText columns) ++ " AGAINST "
      ++ inParentheses (text.text ++ mode))

/-! ## Queries and lists -/

/-- Reads a test for rows behind `EXISTS`. -/
def existence (g : Grammar) (negation : String) : Parse Expr := do
  let query ← parenthesized g.query
  return .phrase (negation ++ "EXISTS " ++ inParentheses query.text)

/-- Reads a negation behind `NOT`. -/
def negated (g : Grammar) : Parse Expr := do
  if ← takeKeyword "EXISTS" then existence g "NOT "
  else return .phrase ("NOT " ++ (← g.expr g.strengths.negation).text)

/-- Reads an array behind its opening bracket. -/
def arrayOf (g : Grammar) (word : String) : Parse Expr := do
  let entries ← commaListUntil g.dialect "]" (exprText g)
  expectSign "]"
  return .phrase (word ++ "[" ++ commaText entries ++ "]")

/-- Reads a record behind its type. -/
def record (g : Grammar) (type : String) : Parse Expr := do
  let field : Parse String := do
    let entry ← exprText g
    if ← takeKeyword "AS" then return entry ++ " AS " ++ (← ident).text else return entry
  return .phrase (type ++ inParentheses (commaText (← parenthesized (g.list field))))

/-- Reads names and values in braces. -/
def dictionary (g : Grammar) (word : String) (key : Parse String) : Parse Expr := do
  expectSign "\x7b"
  let entry : Parse String := do
    let name ← key
    expectSign ":"
    return name ++ ": " ++ (← exprText g)
  let entries ← commaListUntil g.dialect "\x7d" entry
  expectSign "\x7d"
  return .phrase (word ++ "\x7b" ++ commaText entries ++ "\x7d")

/-! ## The words -/

/-- The words of the moment, which are calls without parentheses. -/
def momentWords : List String :=
  ["CURRENT_TIMESTAMP", "CURRENT_TIME", "CURRENT_DATE", "LOCALTIME", "LOCALTIMESTAMP"]

/-- Reads a value of the moment behind its word. -/
def moment (g : Grammar) (text : String) : Parse Expr := do
  if ← takeSign "(" then return .access (text ++ (← arguments g).text) else return .access text

/--
The reader of the form that a word begins, if it begins one. It is used behind the word; `start`
are the tokens with the word.
-/
def formOf? (g : Grammar) (text : String) (start : List Lexeme) : Option (Parse Expr) :=
  let d := g.dialect
  let rest := start.tail
  let signNext (sign : String) : Bool := ahead? 0 rest == some (.sign sign)
  match keywordAt 0 start with
  | "TRUE" => if d.booleanLiterals then some (return .literal (.boolean true)) else none
  | "FALSE" => if d.booleanLiterals then some (return .literal (.boolean false)) else none
  | "NULL" => some (return .literal .null)
  | "CURRENT_CATALOG" | "CURRENT_USER" | "SESSION_USER" | "USER" =>
    if d == .postgres || d == .generic then some (return .access text) else none
  | "CASE" => some (caseOf g)
  | "CONVERT" => some (conversion g "CONVERT")
  | "TRY_CONVERT" => if d.triesConversion then some (conversion g "TRY_CONVERT") else none
  | "CAST" => some (castOf g "CAST")
  | "TRY_CAST" => some (castOf g "TRY_CAST")
  | "SAFE_CAST" => some (castOf g "SAFE_CAST")
  | "EXISTS" =>
    if d != .databricks || ["SELECT", "WITH"].contains (keywordAt 1 rest) then some (existence g "")
    else none
  | "EXTRACT" => some (extraction g)
  | "CEIL" => some (rounding g "CEIL")
  | "FLOOR" => some (rounding g "FLOOR")
  | "POSITION" => if signNext "(" then some (position g text) else none
  | "SUBSTR" => some (substring g "SUBSTR")
  | "SUBSTRING" => some (substring g "SUBSTRING")
  | "OVERLAY" => some (overlay g)
  | "TRIM" => some (trimming g)
  | "INTERVAL" => some (interval g)
  | "ARRAY" =>
    if signNext "[" then some do
      advance
      arrayOf g "ARRAY"
    else if signNext "(" && d != .clickhouse && d != .databricks then some do
      let query ← parenthesized g.query
      return .access (text ++ inParentheses query.text)
    else none
  | "NOT" => some (negated g)
  | "PRIOR" =>
    if g.connectsRows then some do
      return .phrase ("PRIOR " ++ (← g.expr g.strengths.sum).text)
    else none
  | "MATCH" => if d.textSearch then some (search g) else none
  | "STRUCT" =>
    if d.structLiterals then some do
      set start
      let type ← dataType g
      record g type.text
    else none
  | "MAP" =>
    if d.mapLiterals && signNext "\x7b" then some (dictionary g "MAP " (exprText g)) else none
  | word =>
    if momentWords.contains word then some (moment g text)
    else if d.geometricOperators && geometricWords.contains word then some do
      return .phrase (typeName word ++ " " ++ (← value g).text)
    else none

/-- Whether a word that begins a form cannot be a name when the form fails. -/
def isFormOnly (d : Dialect) (keyword : String) : Bool :=
  ["EXISTS", "STRUCT", "TRIM"].contains keyword || (keyword == "INTERVAL" && !d.namesInterval)

end JoinGraph.Sql.Grammar
