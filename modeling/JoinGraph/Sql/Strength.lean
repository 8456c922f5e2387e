import JoinGraph.Sql.Reserved

/-!
# How tightly operators bind

Between two expressions the next tokens tell an operator and how tightly it binds. An operator of
strength zero is none. Most dialects share one scale; `postgres` has another.
-/

namespace JoinGraph.Sql

/-- The strengths of the operators, from loose to tight. -/
structure Strengths where
  disjunction : Nat
  conjunction : Nat
  negation : Nat
  /-- `->`, `@>` and the like -/
  special : Nat
  /-- `IS` -/
  test : Nat
  like : Nat
  between : Nat
  comparison : Nat
  /-- the bar of bits -/
  bitOr : Nat
  bitXor : Nat
  bitAnd : Nat
  xor : Nat
  sum : Nat
  product : Nat
  concatenation : Nat
  zone : Nat
  collation : Nat
  subscript : Nat
  cast : Nat
  period : Nat

/-- The scale of most dialects. -/
def Strengths.common : Strengths :=
  { disjunction := 5, conjunction := 10, negation := 15, special := 16, test := 17, like := 19,
    between := 20, comparison := 20, bitOr := 21, bitXor := 22, bitAnd := 23, xor := 24, sum := 30,
    product := 40, concatenation := 40, zone := 41, collation := 42, subscript := 50, cast := 50,
    period := 100 }

/-- The scale of `postgres`. -/
def Strengths.postgres : Strengths :=
  { disjunction := 10, conjunction := 20, negation := 30, special := 70, test := 40, like := 60,
    between := 60, comparison := 50, bitOr := 70, bitXor := 100, bitAnd := 70, xor := 75, sum := 80,
    product := 90, concatenation := 70, zone := 110, collation := 120, subscript := 130,
    cast := 140, period := 200 }

/-- The scale of a dialect. -/
def Dialect.strengths : Dialect → Strengths
  | postgres => .postgres
  | _ => .common

/-- The signs that compare. -/
def comparisonSigns : List String :=
  [":=", "=", "<", "<=", "<>", ">", ">=", "==", "~", "~*", "!~", "!~*", "~~", "~~*", "!~~", "!~~*",
    "<=>"]

/-- The signs that look into values. -/
def specialSigns : List String :=
  ["->", "->>", "#>", "#>>", "@>", "<@", "#-", "@?", "@@", "?", "?&", "?|"]

/-- Whether a sign is an operator that only its dialect knows. -/
def isCustomOperator (d : Dialect) (sign : String) : Bool :=
  d == .postgres && 2 ≤ sign.length && isOperatorText sign && !(knownSigns.contains sign)
    && sign != "@-@"

/-- Whether a sign stands between two geometric values. -/
def Dialect.joinsGeometry (d : Dialect) (sign : String) : Bool :=
  d.geometricOperators && (geometricSigns.contains sign || sign == "@")

/-- The strength of a sign between two expressions. -/
def signStrength (d : Dialect) (sign : String) : Nat :=
  let s := d.strengths
  if comparisonSigns.contains sign then s.comparison
  else if d.joinsGeometry sign then s.bitOr
  else if specialSigns.contains sign || isCustomOperator d sign then s.special
  else match sign with
    | "|" => s.bitOr
    | "^" => s.bitXor
    | "#" | ">>" | "<<" => if d == .postgres then s.special else s.bitXor
    | "&" => s.bitAnd
    | "+" | "-" => s.sum
    | "*" | "/" | "//" | "%" => s.product
    | "||" => s.concatenation
    | "::" => s.cast
    | "[" => s.subscript
    | "&&" => s.bitOr
    | "!" | "^@" => if d == .postgres then s.special else s.cast
    | ":" => if d == .snowflake then s.cast else 0
    | _ => 0

/-- The strength of a word between two expressions. -/
def wordStrength (d : Dialect) (tokens : List Lexeme) : Nat :=
  let s := d.strengths
  match Parse.keywordAt 0 tokens with
  | "OR" => s.disjunction
  | "AND" => s.conjunction
  | "XOR" => s.xor
  | "AT" =>
    if Parse.keywordAt 1 tokens == "TIME" && Parse.keywordAt 2 tokens == "ZONE" then s.zone else 0
  | "NOT" =>
    match Parse.keywordAt 1 tokens with
    | "IN" | "BETWEEN" => s.between
    | "LIKE" | "ILIKE" | "RLIKE" | "REGEXP" | "SIMILAR" | "MATCH" | "MEMBER" => s.like
    | "NULL" => s.test
    | _ => 0
  | "NOTNULL" => if d.notNullOperator then s.test else 0
  | "IS" => s.test
  | "IN" | "BETWEEN" | "OVERLAPS" | "OPERATOR" => s.between
  | "LIKE" | "ILIKE" | "RLIKE" | "REGEXP" | "SIMILAR" | "MATCH" | "MEMBER" => s.like
  | "DIV" => s.product
  | "COLLATE" => s.collation
  | _ => 0

/-- The strength of the operator that is next; zero if none is. -/
def strengthAhead (d : Dialect) (tokens : List Lexeme) : Nat :=
  match Parse.ahead? 0 tokens with
  | some (.sign sign) => signStrength d sign
  | some (.word ..) => wordStrength d tokens
  | _ => 0

/-! ## The grammar from within -/

/--
What productions of the grammar lead back to, one level further down. `expr n` reads an expression
whose operators bind tighter than `n`; `connection` reads one that connects rows into trees, in
which `PRIOR` looks at the row above.
-/
structure Grammar where
  dialect : Dialect
  connectsRows : Bool
  expr : Nat → Parse Expr
  connection : Parse Expr
  query : Parse Query

namespace Grammar

/-- Reads any expression. -/
def anyExpr (g : Grammar) : Parse Expr := g.expr 0

/-- Reads entries with commas between them. -/
def list {α : Type} (g : Grammar) (entry : Parse α) : Parse (List α) :=
  Parse.commaList g.dialect entry

/-- Reads expressions with commas between them, as text. -/
def exprTexts (g : Grammar) : Parse String := do
  return commaText ((← g.list g.anyExpr).map Expr.text)

/-- The strengths of the dialect. -/
def strengths (g : Grammar) : Strengths := g.dialect.strengths

/-- Whether a query is next. -/
def queryAhead : Parse Bool := Parse.isOneOf ["SELECT", "WITH"]

end Grammar

end JoinGraph.Sql
