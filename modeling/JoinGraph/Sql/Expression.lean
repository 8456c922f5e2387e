import JoinGraph.Sql.Form

/-!
# Expressions

An expression is an operand followed by operators and operands. An operator is taken as long as it
binds tighter than what stands to the left (`expr`); steps into a value bind tightest (`steps`).
-/

namespace JoinGraph.Sql.Grammar

open Parse

/-! ## Operands -/

/-- Reads a value behind its type, if one is there. -/
def typedValue (g : Grammar) : Parse (Option Expr) := do
  let word := keywordAt 0 (← get)
  let mayBeType := (typeForm? g.dialect word).isSome || nestingWords.contains word
    || (g.dialect.bracketArrayTypes && (← isWord))
  if mayBeType then
    maybe do
      let type ← dataType g
      let typed : Parse Expr := return .phrase (type.text ++ " " ++ (← value g).text)
      match type.usage with
      | .interval => interval g
      | .binary =>
        if g.dialect == .mysql then
          return .phrase ("CAST" ++ inParentheses ((← exprText g) ++ " AS BINARY"))
        else typed
      | .known => typed
      | .custom => complain "a type of its own makes no value"
  else return none

/-- Whether `(+)` is next. -/
def outerJoinMarkAhead (d : Dialect) : Parse Bool := do
  return d.outerJoinMark && (← isSign "(") && (← signAhead 1 "+") && (← signAhead 2 ")")

/-- Reads a column, a call or the like behind its first word. -/
def named (g : Grammar) (name : Ident) : Parse Expr := do
  let column : Parse Expr := return .column [name]
  let introduced : Parse Expr := do
    if name.value.startsWith "_" then return .phrase (name.text ++ " " ++ (← value g).text)
    else column
  match ← peek? with
  | some (.sign "(") => if ← outerJoinMarkAhead g.dialect then column else call g name.text
  | some (.string .single _) => introduced
  | some (.string .double _) => introduced
  | some (.string .hexadecimal _) => introduced
  | some (.sign "->") =>
    if g.dialect.lambdas then
      advance
      return .phrase (name.text ++ " -> " ++ (← exprText g))
    else column
  | _ => column

/-- Reads an operand that begins with a word. -/
def wordOperand (g : Grammar) (name : Ident) : Parse Expr := do
  let start ← get
  advance
  match formOf? g name.text start with
  | none => named g name
  | some form =>
    match ← attempt form with
    | .ok e => return e
    | .error complaint =>
      if isFormOnly g.dialect (keywordAt 0 start) then throw complaint
      else
        match ← attempt (named g name) with
        | .ok e => return e
        | .error _ => throw complaint

/-- Reads a function with names for its arguments, behind the opening parenthesis. -/
def lambda (g : Grammar) : Parse Expr := do
  let names ← g.list ident
  expectSign ")"
  expectSign "->"
  return .phrase (inParentheses (commaText (names.map Ident.text)) ++ " -> " ++ (← exprText g))

/-- Reads an operand in parentheses behind the opening one. -/
def groupedOperand (g : Grammar) : Parse Expr := do
  if ← queryAhead then
    let query ← g.query
    expectSign ")"
    return .phrase (inParentheses query.text)
  let found ← if g.dialect.lambdas then maybe (lambda g) else pure none
  match found with
  | some e => return e
  | none =>
    let entries ← g.list g.anyExpr
    expectSign ")"
    match entries with
    | [e] => return .nested e
    | entries => return .phrase (inParentheses (commaText (entries.map Expr.text)))

/-- Reads a value or a call in braces behind the opening one. -/
def braced (g : Grammar) : Parse Expr := do
  let word ← ident
  match Text.lowerAscii word.value with
  | "fn" =>
    let name ← objectName g false
    let call ← call g (nameText name)
    expectSign "\x7d"
    return .access ("\x7bfn " ++ call.text ++ "\x7d")
  | "d" | "t" | "ts" =>
    let moment ← value g
    expectSign "\x7d"
    return .phrase ("\x7b" ++ word.value ++ " " ++ moment.text ++ "\x7d")
  | _ => expected "an expression"

/-- Reads an operand that begins with a sign. -/
def signOperand (g : Grammar) (sign : String) : Parse Expr := do
  let d := g.dialect
  let unary (text : String) (strength : Nat) : Parse Expr := do
    advance
    return .phrase (text ++ (← g.expr strength).text)
  match sign with
  | "[" =>
    advance
    arrayOf g ""
  | "(" =>
    advance
    groupedOperand g
  | "-" | "+" => unary sign g.strengths.product
  | "~" => unary sign g.strengths.sum
  | "!" => if d.bangNegates then unary sign g.strengths.negation else expected "an expression"
  | "!!" | "|/" | "||/" =>
    if d == .postgres then unary sign g.strengths.sum else expected "an expression"
  | "@" => if d == .postgres then unary sign g.strengths.sum else return .literal (← value g)
  | ":" => return .literal (← value g)
  | "#" | "@@" | "?|" | "?-" | "@-@" =>
    if d.geometricOperators then unary (sign ++ " ") g.strengths.sum else expected "an expression"
  | "\x7b" =>
    let body : Parse Expr := do
      advance
      braced g
    match ← maybe body with
    | some e => return e
    | none =>
      if d.dictionaryLiterals then dictionary g "" (Ident.text <$> ident)
      else expected "an expression"
  | _ => expected "an expression"

/-- Reads an operand. -/
def operand (g : Grammar) : Parse Expr := do
  match ← typedValue g with
  | some e => return e
  | none =>
    let e ← match ← peek? with
      | some (.word text quote?) => wordOperand g ⟨text, quote?⟩
      | some (.sign sign) => signOperand g sign
      | some (.string .escaped _) =>
        if g.dialect == .postgres || g.dialect == .generic then Expr.literal <$> value g
        else expected "an expression"
      | some _ => Expr.literal <$> value g
      | none => expected "an expression"
    if ← takeKeyword "COLLATE" then
      return .phrase (e.text ++ " COLLATE " ++ nameText (← objectName g false))
    else return e

/-! ## Steps into values -/

/-- The part of a value, or the column of a table. -/
def step : Expr → Expr → Expr
  | .column path, .column more => .column (path ++ more)
  | whole, part => .access (whole.text ++ "." ++ part.text)

/-- Reads what follows a period. -/
def part (g : Grammar) : Parse Expr := do
  match ← peek? with
  | some (.string .single text) =>
    advance
    return .column [⟨text, some '\''⟩]
  | _ =>
    let found ← maybe do
      match ← g.expr g.strengths.period with
      | .column path => return Expr.column path
      | .literal value => return .literal value
      | .access text => return .access text
      | _ => expected "an identifier or value"
    match found with
    | some e => return e
    | none => return .column [← ident]

/-- Reads an index or a slice behind the opening bracket, and the closing one. -/
def subscript (g : Grammar) : Parse String := do
  let isOpen ← takeSign ":"
  let lower ← if isOpen then pure "" else exprText g
  if ← takeSign "]" then return "[" ++ lower ++ (if isOpen then ":" else "") ++ "]"
  unless isOpen do expectSign ":"
  if ← takeSign "]" then return "[" ++ lower ++ ":]"
  let upper ← exprText g
  if ← takeSign "]" then return "[" ++ lower ++ ":" ++ upper ++ "]"
  expectSign ":"
  if ← takeSign "]" then return "[" ++ lower ++ ":" ++ upper ++ "]"
  let stride ← exprText g
  expectSign "]"
  return "[" ++ lower ++ ":" ++ upper ++ ":" ++ stride ++ "]"

/-- Reads one step into a value, if one follows. -/
def nextStep (g : Grammar) (whole : Expr) : Parse (Option Expr) := do
  if ← isSign "." then
    if ← signAhead 1 "*" then
      match g.dialect, whole with
      | .postgres, .column path =>
        advance
        advance
        return some (.phrase (pathText path ++ ".*"))
      | .postgres, _ =>
        advance
        advance
        expected "an identifier or a '*' after '.'"
      | _, _ => return none
    else
      advance
      return some (step whole (← part g))
  else if ← onlyIf (!g.dialect.pathAccess) (takeSign "[") then
    return some (.access (whole.text ++ (← subscript g)))
  else return none

/-- Reads the steps into a value. -/
def steps (g : Grammar) (whole : Expr) : Parse Expr := do
  let e ← repeatFrom whole (nextStep g)
  if ← outerJoinMarkAhead g.dialect then
    advance
    advance
    advance
    return .phrase (e.text ++ " (+)")
  else return e

/-- Reads the name of a member of a nested value. -/
def memberName : Parse String := do
  match ← peek? with
  | some (.word text none) =>
    advance
    return text
  | some (.word text (some '"')) =>
    advance
    return quoted '"' text
  | some (.string .double text) =>
    advance
    return quoted '"' text
  | _ => expected "variant object key name"

/-- Reads the path of a member of a nested value. -/
def memberPath (g : Grammar) : Parse String :=
  repeatFrom "" fun path => do
    if ← onlyIf path.isEmpty (takeSign ":") then return some (":" ++ (← memberName))
    else if ← onlyIf (!path.isEmpty) (takeSign ".") then return some (path ++ "." ++ (← memberName))
    else if ← takeSign "[" then
      let key ← exprText g
      expectSign "]"
      return some (path ++ "[" ++ key ++ "]")
    else return none

/-! ## Operators -/

/-- Whether a sign joins two expressions. -/
def joinsExprs (d : Dialect) (sign : String) : Bool :=
  comparisonSigns.contains sign || specialSigns.contains sign || isCustomOperator d sign
    || d.joinsGeometry sign
    || ["|", "^", "&", "+", "-", "*", "/", "%", "||"].contains sign
    || (sign == "//" && d.slashDivision)
    || ((sign == "<<" || sign == ">>") && d.bitShifts)
    || ((sign == "#" || sign == "&&") && d.geometricOperators)
    || (sign == "^@" && d.namedOperators)

/-- The signs that may compare with any or all values of a list. -/
def quantifiedSigns : List String :=
  comparisonSigns.filter fun sign => sign != ":=" && sign != "<=>"

/--
Reads what stands to the right of an operator. `place` are the tokens from the operator on, for a
complaint about it.
-/
def rightSide (g : Grammar) (left : Expr) (operator : String) (strength : Nat)
    (place : List Lexeme) : Parse Expr := do
  match ← takeOneOf ["ANY", "ALL", "SOME"] with
  | none => return .binary operator left (← g.expr strength)
  | some word =>
    let start ← get
    expectSign "("
    let right ← if ← queryAhead then do
        set start
        g.expr strength
      else do
        let right ← g.expr strength
        expectSign ")"
        pure (Expr.nested right)
    if quantifiedSigns.contains operator then
      let text := match right with
        | .phrase text => text
        | .nested inner => inParentheses inner.text
        | other => inParentheses other.text
      return .phrase (left.text ++ " " ++ operator ++ " " ++ word ++ text)
    else
      set place
      complain ("Expected one of [=, >, <, =>, =<, !=, ~, ~*, !~, !~*, ~~, ~~*, !~~, !~~*] "
        ++ "as comparison operator, found: " ++ operator)

/-- Reads a test behind `IS`. -/
def testOf (g : Grammar) (left : Expr) : Parse Expr := do
  let tests := [["NULL"], ["NOT", "NULL"], ["TRUE"], ["NOT", "TRUE"], ["FALSE"], ["NOT", "FALSE"],
    ["UNKNOWN"], ["NOT", "UNKNOWN"]]
  let tokens ← get
  match tests.find? (beginWith · tokens) with
  | some words =>
    set (tokens.drop words.length)
    return .phrase (left.text ++ " IS " ++ " ".intercalate words)
  | none =>
    if ← takeKeywords ["DISTINCT", "FROM"] then
      return .phrase (left.text ++ " IS DISTINCT FROM " ++ (← exprText g))
    else if ← takeKeywords ["NOT", "DISTINCT", "FROM"] then
      return .phrase (left.text ++ " IS NOT DISTINCT FROM " ++ (← exprText g))
    else
      let negation := if ← takeKeyword "NOT" then "NOT" else ""
      let form := (← takeOneOf ["NFC", "NFD", "NFKC", "NFKD"]).getD ""
      if ← takeKeyword "NORMALIZED" then
        return .phrase (spaced [left.text, "IS", negation, form, "NORMALIZED"])
      else expected "[NOT] NULL | TRUE | FALSE | DISTINCT | [form] NORMALIZED FROM after IS"

/-- Reads a list or a query behind `IN`. -/
def membership (g : Grammar) (left : String) : Parse Expr := do
  if ← takeKeyword "UNNEST" then
    let list ← parenthesized (exprText g)
    return .phrase (left ++ "IN UNNEST" ++ inParentheses list)
  expectSign "("
  let list ← match ← maybe g.query with
    | some query => pure query.text
    | none =>
      commaText <$> if g.dialect.emptyInList then commaListUntil g.dialect ")" (exprText g)
        else g.list (exprText g)
  expectSign ")"
  return .phrase (left ++ "IN " ++ inParentheses list)

/-- Reads a pattern, and the character that escapes in it. -/
def pattern (g : Grammar) : Parse String := do
  let text := (← g.expr g.strengths.like).text
  return text ++ blankBefore (← clause "ESCAPE" (Literal.text <$> value g))

/-- Reads a range, a list or a pattern that is compared with, from `NOT` or its own word on. -/
def matching (g : Grammar) (operand : Expr) : Parse Expr := do
  let isNegated ← takeKeyword "NOT"
  let left := operand.text ++ (if isNegated then " NOT " else " ")
  match ← takeOneOf ["REGEXP", "RLIKE"] with
  | some word => return .phrase (left ++ word ++ " " ++ (← g.expr g.strengths.like).text)
  | none =>
    if ← onlyIf isNegated (takeKeyword "NULL") then return .phrase (operand.text ++ " IS NOT NULL")
    else if ← takeKeyword "IN" then membership g left
    else if ← takeKeyword "BETWEEN" then
      let low ← g.expr g.strengths.between
      expectKeyword "AND"
      let high ← g.expr g.strengths.between
      return .phrase (left ++ "BETWEEN " ++ low.text ++ " AND " ++ high.text)
    else
      match ← takeOneOf ["LIKE", "ILIKE"] with
      | some word =>
        let any ← optionalWords ["ANY"]
        return .phrase (left ++ word ++ any ++ " " ++ (← pattern g))
      | none =>
        if ← takeKeywords ["SIMILAR", "TO"] then
          return .phrase (left ++ "SIMILAR TO " ++ (← pattern g))
        else expected "IN or BETWEEN after NOT"

/-- Reads a word that stands between two expressions, and what follows it. -/
def wordOperator (g : Grammar) (left : Expr) (strength : Nat) : Parse Expr := do
  let place ← get
  let noOperator : Parse Expr := do
    set place
    complain ("No infix parser for token " ++ ((ahead? 0 place).map Token.text).getD endText)
  match keywordAt 0 place with
  | "AND" | "OR" | "XOR" | "OVERLAPS" =>
    advance
    rightSide g left (keywordAt 0 place) strength place
  | "OPERATOR" =>
    if g.dialect.namedOperators then
      advance
      let names ← parenthesized do
        let part : Parse String := do
          let text := ((← peek?).map Token.text).getD endText
          advance
          return text
        listUntil (return !(← takeSign ".")) part
      rightSide g left ("OPERATOR" ++ inParentheses (".".intercalate names)) strength place
    else noOperator
  | "IS" =>
    advance
    testOf g left
  | "AT" =>
    advance
    expectKeywords ["TIME", "ZONE"]
    return .phrase (left.text ++ " AT TIME ZONE " ++ (← g.expr strength).text)
  | "REGEXP" =>
    if g.dialect == .sqlite then
      advance
      return .binary "REGEXP" left (← g.anyExpr)
    else matching g left
  | "NOT" | "IN" | "BETWEEN" | "LIKE" | "ILIKE" | "SIMILAR" | "RLIKE" => matching g left
  | "MATCH" =>
    if g.dialect == .sqlite then
      advance
      return .binary "MATCH" left (← g.anyExpr)
    else noOperator
  | "DIV" =>
    if g.dialect == .mysql then
      advance
      return .binary "DIV" left (← g.anyExpr)
    else noOperator
  | "NOTNULL" =>
    advance
    return .phrase (left.text ++ " IS NOT NULL")
  | "MEMBER" =>
    advance
    if ← takeKeyword "OF" then
      let list ← parenthesized (exprText g)
      return .phrase (left.text ++ " MEMBER OF" ++ inParentheses list)
    else expected "OF after MEMBER"
  | "COLLATE" =>
    advance
    return .phrase (left.text ++ " COLLATE " ++ nameText (← objectName g false))
  | _ => noOperator

/-- Reads the operator that is next, and what follows it. -/
def operator (g : Grammar) (left : Expr) (strength : Nat) : Parse Expr := do
  let place ← get
  match ahead? 0 place with
  | some (.sign sign) =>
    if joinsExprs g.dialect sign then
      advance
      rightSide g left (if sign == "==" then "=" else sign) strength place
    else if sign == "::" then
      advance
      return .phrase (left.text ++ "::" ++ (← dataType g).text)
    else if sign == "!" && g.dialect.factorial then
      advance
      return .phrase (left.text ++ "!")
    else if (sign == "[" && g.dialect.pathAccess)
        || (sign == ":" && (g.dialect == .snowflake || g.dialect == .generic)) then
      return .phrase (left.text ++ (← memberPath g))
    else complain ("No infix parser for token " ++ sign)
  | _ => wordOperator g left strength

/-- Reads an expression whose operators bind tighter than `least`. -/
def exprAbove (g : Grammar) (least : Nat) : Parse Expr := do
  let first ← steps g (← operand g)
  repeatFrom first fun left => do
    let strength := strengthAhead g.dialect (← get)
    if strength ≤ least then return none else return some (← operator g left strength)

end JoinGraph.Sql.Grammar
