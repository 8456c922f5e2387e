import JoinGraph.Sql.Parse

/-!
# Reserved words

An alias may be written without `AS`. Then a word that goes on the statement must not be taken for
an alias; which words these are depends on the dialect and, in `snowflake`, on what follows them.
-/

namespace JoinGraph.Sql

/-- The words that do not name a column without `AS`. -/
def columnReserved : List String :=
  ["WITH", "EXPLAIN", "ANALYZE", "SELECT", "WHERE", "GROUP", "SORT", "HAVING", "ORDER", "TOP",
    "LATERAL", "VIEW", "LIMIT", "OFFSET", "FETCH", "UNION", "EXCEPT", "EXCLUDE", "INTERSECT",
    "MINUS", "CLUSTER", "DISTRIBUTE", "RETURNING", "FROM", "INTO", "END"]

/-- The words that do not name a table without `AS`. -/
def tableReserved : List String :=
  ["WITH", "EXPLAIN", "ANALYZE", "SELECT", "WHERE", "GROUP", "SORT", "HAVING", "ORDER", "PIVOT",
    "UNPIVOT", "TOP", "LATERAL", "VIEW", "LIMIT", "OFFSET", "FETCH", "UNION", "EXCEPT", "INTERSECT",
    "MINUS", "ON", "JOIN", "INNER", "CROSS", "FULL", "LEFT", "RIGHT", "NATURAL", "USING", "CLUSTER",
    "DISTRIBUTE", "GLOBAL", "ANTI", "SEMI", "RETURNING", "ASOF", "MATCH_CONDITION", "OUTER", "SET",
    "QUALIFY", "WINDOW", "END", "FOR", "PARTITION", "PREWHERE", "SETTINGS", "FORMAT", "START",
    "CONNECT", "MATCH_RECOGNIZE", "SAMPLE", "TABLESAMPLE", "FROM", "OPEN", "INTO"]

/-- Whether a value follows a word, so that the word limits the rows. -/
def limitsRows (tokens : List Lexeme) : Bool :=
  match Parse.ahead? 1 tokens with
  | some (.number ..) => true
  | some (.placeholder _) => true
  | some (.string .single text) => text.isEmpty
  | some token => token.keyword == "NULL"
  | none => false

/-- Whether `FETCH` fetches rows. -/
def fetchesRows (tokens : List Lexeme) : Bool :=
  ["FIRST", "NEXT"].contains (Parse.keywordAt 1 tokens) || limitsRows tokens

/-- Whether the next word may name a column without `AS`. -/
def mayNameColumn (d : Dialect) (tokens : List Lexeme) : Bool :=
  let word := Parse.keywordAt 0 tokens
  match d with
  | .snowflake =>
    if word == "EXCEPT" then false
    else if word == "RETURNING" then
      match Parse.ahead? 1 tokens with
      | none => true
      | some next => next == .sign ","
    else if word == "LIMIT" || word == "OFFSET" then !limitsRows tokens
    else if word == "FETCH" then !fetchesRows tokens
    else !(["FROM", "GROUP", "HAVING", "INTERSECT", "INTO", "MINUS", "ORDER", "SELECT", "UNION",
      "WHERE", "WITH"].contains word)
  | .bigquery =>
    !(["WITH", "SELECT", "WHERE", "GROUP", "HAVING", "ORDER", "LATERAL", "LIMIT", "FETCH", "UNION",
      "EXCEPT", "INTERSECT", "FROM", "INTO", "END"].contains word)
  | .mssql => !columnReserved.contains word && word != "IF" && word != "ELSE"
  | _ => !columnReserved.contains word

/-- Whether the next word may name a table without `AS`. -/
def mayNameTable (d : Dialect) (tokens : List Lexeme) : Bool :=
  let word := Parse.keywordAt 0 tokens
  match d with
  | .snowflake =>
    if ["RETURNING", "INNER", "USING", "PIVOT", "UNPIVOT", "EXCEPT",
      "MATCH_RECOGNIZE"].contains word
    then
      match Parse.ahead? 1 tokens with
      | none => true
      | some next => next == .sign ";"
    else if word == "LIMIT" || word == "OFFSET" then !limitsRows tokens
    else if word == "FETCH" then !fetchesRows tokens
    else if ["RIGHT", "LEFT", "SEMI", "ANTI"].contains word then
      !(["JOIN", "OUTER"].contains (Parse.keywordAt 1 tokens))
    else if word == "GLOBAL" then Parse.keywordAt 1 tokens != "FULL"
    else !(["WITH", "ORDER", "SELECT", "WHERE", "GROUP", "HAVING", "LATERAL", "UNION", "INTERSECT",
      "MINUS", "ON", "JOIN", "CROSS", "FULL", "NATURAL", "ASOF", "MATCH_CONDITION", "SET",
      "QUALIFY", "FOR", "START", "CONNECT", "SAMPLE", "TABLESAMPLE", "FROM"].contains word)
  | .mysql =>
    !tableReserved.contains word && !(["USE", "IGNORE", "FORCE", "STRAIGHT_JOIN"].contains word)
  | _ => !tableReserved.contains word

namespace Parse

/-- Reads an alias. Behind `AS` every word is one, else only words of which `mayName` holds. -/
def aliasWhere (mayName : List Lexeme → Bool) : Parse (Option Ident) := do
  let isExplicit ← takeKeyword "AS"
  let tokens ← get
  match ahead? 0 tokens with
  | some (.word text quote?) =>
    if isExplicit || mayName tokens then
      advance
      return some ⟨text, quote?⟩
    else return none
  | some token =>
    match nameOf? token with
    | some name =>
      advance
      return some name
    | none => if isExplicit then expected "an identifier after AS" else return none
  | none => if isExplicit then expected "an identifier after AS" else return none

/-- Whether a list that may end with a comma ends here; otherwise takes a comma. -/
def endsListWith (isReserved : List Lexeme → Bool) : Parse Bool := do
  if ← noComma then return true
  let tokens ← get
  match ahead? 0 tokens with
  | some (.word ..) => return isReserved tokens
  | some token => return [.sign ")", .sign ";", .sign "]", .sign "\x7d"].contains token
  | none => return true

/-- Whether a list of the dialect ends here; otherwise takes a comma. -/
def endsList (d : Dialect) : Parse Bool :=
  if d.trailingCommas then endsListWith fun tokens => !mayNameColumn d tokens else noComma

/-- Reads entries with commas between them. -/
def commaList {α : Type} (d : Dialect) (entry : Parse α) : Parse (List α) :=
  listUntil (endsList d) entry

/-- Reads entries with commas between them up to a sign, which may stand at once. -/
def commaListUntil {α : Type} (d : Dialect) (closing : String) (entry : Parse α) :
    Parse (List α) := do
  if ← isSign closing then return []
  else if d.trailingCommas && (← isSign ",") && (← signAhead 1 closing) then
    advance
    return []
  else commaList d entry

end Parse

end JoinGraph.Sql
