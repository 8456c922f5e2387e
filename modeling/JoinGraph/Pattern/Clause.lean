import JoinGraph.Pattern.Keyword
import JoinGraph.Shape.Flat

/-!
# Reading clauses by pattern

What stands between the keywords of a statement: columns, tables, joins and the first comparison.
Only plain names are taken; what is computed or nested is passed over. Nothing is ever refused.
-/

namespace JoinGraph.Pattern

open Shape.Flat (Column Table)

/-! ## Names -/

/-- Characters of a plain name. -/
def isNamePart (c : Char) : Bool := Text.isAlphanumeric c || c == '_' || c == '$'

/-- Whether a word is a plain name once its delimiters are gone, and no clause keyword. -/
def isPlainName (word : List Char) : Bool :=
  let name := Name.bareChars word
  !name.isEmpty && !Name.isClauseKeyword (String.ofList name) && name.all isNamePart

/-- Whether a name without delimiters is a dotted path of plain names that may name a table. -/
def isTablePath (name : List Char) : Bool :=
  !name.isEmpty && !Name.isClauseKeyword (String.ofList name) && name.head? != some '.'
    && name.all fun c => isNamePart c || c == '.'

/-- Characters of a path of columns, delimiters and wildcards included. -/
def isPathPart (c : Char) : Bool := isNamePart c || c == '.' || c == '*' || Name.isDelimiter c

/-- Whether a text is a dotted path that may name a column. -/
def isColumnPath (text : List Char) : Bool :=
  !text.isEmpty && !Name.isClauseKeyword (String.ofList text)
    && !text.head?.any (fun c => Text.isAsciiDigit c || c == '.') && text.all isPathPart

/-- The column that a plain path names. -/
def columnOf? (text : List Char) : Option ColumnRef :=
  if isColumnPath text then ColumnRef.ofPathChars? text else none

/-! ## Columns -/

/-- Whether a text may stand behind `as`: a word without blanks, or a delimited name. -/
def isAliasText (text : List Char) : Bool :=
  let wrapped (opening closing : Char) : Bool :=
    match text with
    | first :: rest =>
      first == opening && rest.getLast? == some closing && !rest.dropLast.contains closing
    | [] => false
  (!text.isEmpty && !text.any Text.isBlank) || wrapped '"' '"' || wrapped '\x60' '\x60'
    || wrapped '[' ']'

/-- The alias, if blanks, `as`, blanks and an alias make up the whole text. -/
def aliasAfterAs? (s : List Char) : Option (List Char) := do
  let name ← afterBlanks? (← afterWord? "as".toList (← afterBlanks? s))
  if isAliasText name then some name else none

/-- Splits a column into its expression and the alias behind the first `as` that fits. -/
def splitAs? : List Char → Option (List Char × List Char)
  | [] => none
  | c :: rest =>
    match aliasAfterAs? (c :: rest) with
    | some name => some ([], name)
    | none => (splitAs? rest).map fun parts => (c :: parts.1, parts.2)

/-- Splits a column into its expression and its alias, if it has one. -/
def splitAlias (item : List Char) : List Char × Option (List Char) :=
  match splitAs? item with
  | some (expr, name) => (Text.trimChars expr, some (Name.bareChars name))
  | none =>
    match Text.words item with
    | [expr, name] => if isPlainName name then (expr, some (Name.bareChars name)) else (item, none)
    | _ => (item, none)

/-- The column of an entry of the SELECT list, if it is plain and no wildcard. -/
def column? (entry : List Char) : Option Column := do
  let (expr, name) := splitAlias (Text.trimChars entry)
  let ref ← columnOf? expr
  if ref.column = "*" then none
  else some ⟨ref, (name.filter fun n => !n.isEmpty).map String.ofList⟩

/-- The SELECT list without `distinct` or `all` in front. -/
def withoutModifier (list : List Char) : List Char :=
  let rest := Text.trimFront list
  (["distinct", "all"].findSome? fun word =>
    (afterWord? word.toList rest).bind afterBlanks?).getD list

/-- The columns between the first `select` and the first `from` behind it. -/
def columns (text : List Char) : List Column :=
  match first? (wordAndBlanks "select") text with
  | none => []
  | some select =>
    match first? (wholeWord "from") select.after with
    | none => []
    | some found => (splitTop ',' (withoutModifier found.before)).filterMap column?

/-! ## Tables -/

/-- The last segment of a dotted path. -/
def lastSegment (path : List Char) : List Char :=
  ((Text.splitChars '.' path).getLast?).getD []

/-- The alias among the words behind a table name. -/
def aliasAmong? : List (List Char) → Option String
  | [] => none
  | word :: rest =>
    let name? := if Text.equalFold (String.ofList word) "as" then rest.head? else some word
    (name?.map Name.bareChars).bind fun name =>
      if isPlainName name then some (String.ofList name) else none

/-- The table of an entry of a FROM list, with its alias; none if the entry is nested or not
plain. -/
def table? (entry : List Char) : Option Table :=
  let entry := Text.trimChars entry
  if entry.head? = some '(' then none
  else
    match Text.words entry with
    | [] => none
    | word :: rest =>
      let name := Name.bareChars word
      let table := lastSegment name
      if isTablePath name && !table.isEmpty then some ⟨String.ofList table, aliasAmong? rest⟩
      else none

/-- Words that end a FROM list or a join. -/
def joinWords : List String :=
  ["inner", "left", "right", "full", "cross", "outer", "natural", "join"]

/-- Words that end a condition. -/
def conditionEnds : List String :=
  ["group", "order", "limit", "having", "union", "window", "qualify"]

/-- Words that end a FROM list or a join. -/
def clauseEnds : List String := joinWords ++ "where" :: conditionEnds

/-- The tables of all FROM lists. -/
def tables (text : List Char) : List Table :=
  (occurrences (wholeWord "from") text).flatMap fun found =>
    let list := textBefore (either (anyWord clauseEnds) (character ')')) found.after
    (splitTop ',' list).filterMap table?

/-! ## Joins -/

/-- One side of a join condition. -/
def joinSide? (side : List Char) : Option ColumnRef :=
  let side := Text.trimChars side
  if side.any fun c => c == '<' || c == '>' || c == '!' then none else columnOf? side

/-- The sides of the first equality of a join condition; parentheses do not count. -/
def joinSides (condition : List Char) : Option ColumnRef × Option ColumnRef :=
  let conjunct := beforeConjunction (condition.filter fun c => !(c == '(' || c == ')'))
  match Text.splitOnce? '=' conjunct with
  | some (left, right) => (joinSide? left, joinSide? right)
  | none => (none, none)

/-- The join behind a `join`. -/
def join? (found : Occurrence) : Option Shape.Flat.Join :=
  let clause := textBefore (anyWord clauseEnds) found.after
  let (head, sides) := match first? (wholeWord "on") clause with
    | some on => (on.before, joinSides on.after)
    | none => (clause, (none, none))
  (table? head).map fun t => ⟨t.table, t.alias?, sides.1, sides.2⟩

/-- The joins of a statement. -/
def joins (text : List Char) : List Shape.Flat.Join :=
  (occurrences (wordAndBlanks "join") text).filterMap join?

/-! ## Conditions -/

/-- Whether a character belongs to a comparison operator. -/
def isComparisonPart (c : Char) : Bool := c == '<' || c == '>' || c == '=' || c == '!'

/-- Takes a comparison operator off the front of a text, the longer one if two match. -/
def afterComparison? : List Char → Option (Comparison × List Char)
  | '<' :: '=' :: rest => some (.atMost, rest)
  | '>' :: '=' :: rest => some (.atLeast, rest)
  | '!' :: '=' :: rest => some (.notEqual, rest)
  | '<' :: '>' :: rest => some (.notEqual, rest)
  | '=' :: rest => some (.equal, rest)
  | '<' :: rest => some (.less, rest)
  | '>' :: rest => some (.greater, rest)
  | _ => none

/-- A plain column, one operator, and a text without operators. -/
def comparison? (text : List Char) : Option Condition := do
  let left := text.takeWhile fun c => !isComparisonPart c
  let (operator, right) ← afterComparison? (text.dropWhile fun c => !isComparisonPart c)
  if right.isEmpty || right.any isComparisonPart then none
  else some ⟨← columnOf? (Text.trimChars left), operator, String.ofList (Name.unquoteChars right)⟩

/-- Drops the parentheses that open at the front and those that close at the back. -/
def withoutOuterParens (s : List Char) : List Char :=
  ((s.dropWhile (· = '(')).reverse.dropWhile (· = ')')).reverse

/-- The first comparison behind the first `where`. -/
def condition? (text : List Char) : Option Condition := do
  let found ← first? (wholeWord "where") text
  let condition := Text.trimChars (textBefore (anyWord conditionEnds) found.after)
  comparison? (withoutOuterParens (Text.trimChars (beforeConjunction condition)))

end JoinGraph.Pattern
