import JoinGraph.Pattern

/-!
# Plain statements

A plain statement selects columns from tables and joins that are only named, under at most one
comparison with a quoted text.  It is what reading by pattern is made for.  A layout of a plain
statement is a text that shows its tokens in order (`Layout`): keywords in any letter case, names
bare or delimited, table names and qualified columns behind any schemas, and blanks between the
tokens, which may be left out only around commas and operators.

The types keep apart what would be read otherwise: an identifier is no reserved word, a literal has
no quote, no operator and no conjunction in it, and a table's alias names nothing else.
-/

namespace JoinGraph.Plain

open Text (isBlank)

/-! ## Statements -/

/-- Words that have a meaning of their own in a statement. -/
def reservedWords : List String := Name.clauseKeywords ++ ["distinct", "all"]

/-- ASCII letters, ASCII digits and underscores. -/
def isIdentifierPart (c : Char) : Bool := Text.isAsciiLetter c || Text.isAsciiDigit c || c == '_'

/-- A name that needs no delimiters. -/
structure Identifier where
  text : String
  parts : text.toList.all isIdentifierPart = true := by decide
  start : text.toList.head?.any (fun c => !Text.isAsciiDigit c) = true := by decide
  free : reservedWords.any (Text.equalFold · text) = false := by decide

/-- The characters of a name. -/
def Identifier.chars (n : Identifier) : List Char := n.text.toList

/-- Whether a word stands at the front of a text, in any ASCII case, and a blank behind it. -/
def startsWithWord : (word : List Char) → List Char → Bool
  | [], s => s.head?.any isBlank
  | _ :: _, [] => false
  | w :: word, c :: rest => Text.asciiLower c == w && startsWithWord word rest

/-- Whether a word stands between blanks somewhere in a text, in any ASCII case. -/
def standsBetweenBlanks (word : List Char) : List Char → Bool
  | [] => false
  | c :: rest => isBlank c && startsWithWord word rest || standsBetweenBlanks word rest

/-- A text that a column may be compared with. -/
structure Literal where
  text : String
  unquoted : '\'' ∉ text.toList := by decide
  noOperator : text.toList.any Pattern.isComparisonPart = false := by decide
  noConjunction : ["and", "or"].any (fun word =>
    standsBetweenBlanks word.toList text.toList) = false := by decide

/-- A column, qualified or not. -/
structure ColumnName where
  qualifier? : Option Identifier
  name : Identifier

/-- A column of the SELECT list. -/
structure Column where
  column : ColumnName
  alias? : Option Identifier

/-- A table; its alias is not its name. -/
structure Table where
  name : Identifier
  alias? : Option Identifier
  alias_ne : ∀ a ∈ alias?, a.text ≠ name.text := by decide

/-- A joined table, and the two columns that ON makes equal. -/
structure Join where
  table : Table
  on? : Option (ColumnName × ColumnName)

/-- A comparison of a column with a text. -/
structure Filter where
  column : ColumnName
  operator : Comparison
  literal : Literal

/-- The aliases that tables declare, in order. -/
def declaredAliases (tables : List Table) : List String :=
  tables.filterMap fun t => t.alias?.map Identifier.text

/-- A SELECT from at least one table. No alias is declared twice; no column stands for `*`. -/
structure Select where
  columns : List Column
  first : Table
  others : List Table
  joins : List Join
  filter? : Option Filter
  nodup_aliases : (declaredAliases (first :: others ++ joins.map Join.table)).Nodup := by decide

/-! ## What a statement says -/

/-- The column that is named. -/
def ColumnName.ref (c : ColumnName) : ColumnRef := ⟨c.qualifier?.map Identifier.text, c.name.text⟩

/-- The table that is named. -/
def Table.ref (t : Table) : TableRef := ⟨t.name.text, t.alias?.map Identifier.text⟩

/-- The join that is named. -/
def Join.join (j : Join) : JoinGraph.Join :=
  ⟨j.table.name.text, j.table.alias?.map Identifier.text, j.on?.map (·.1.ref), j.on?.map (·.2.ref)⟩

/-- The column of the SELECT list that is named. -/
def Column.projected (c : Column) : ProjectedColumn :=
  ⟨c.column.ref.table, c.column.ref.column, c.alias?.map Identifier.text⟩

/-- The comparison that is made. -/
def Filter.condition (f : Filter) : Condition := ⟨f.column.ref, f.operator, f.literal.text⟩

/-- All tables, those of the FROM list first. -/
def Select.tables (s : Select) : List Table := s.first :: s.others ++ s.joins.map Join.table

/-- What a plain statement says. -/
def Select.statement (s : Select) : Statement where
  tables := s.tables.map Table.ref
  joins := s.joins.map Join.join
  projected := s.columns.map Column.projected
  condition := s.filter?.map Filter.condition

/-! ## Tokens -/

/-- The keywords of plain statements. -/
inductive Keyword where
  | select | source | join | on | filter | named
  deriving DecidableEq

/-- The word of a keyword. -/
def Keyword.text : Keyword → String
  | select => "select"
  | source => "from"
  | join => "join"
  | on => "on"
  | filter => "where"
  | named => "as"

/-- The parts of a layout that blanks may stand between. -/
inductive Token where
  | keyword (word : Keyword)
  | comma
  | star
  | table (name : Identifier)
  | column (name : ColumnName)
  | name (name : Identifier)
  | operator (sign : Comparison)
  | literal (value : Literal)

/-- The tokens that need blanks between them. -/
def Token.isWord : Token → Bool
  | comma => false
  | operator _ => false
  | _ => true

/-- The tokens of an alias. -/
def aliasTokens : Option Identifier → List Token
  | some a => [.keyword .named, .name a]
  | none => []

/-- The tokens of an entry of the SELECT list. -/
def Column.tokens (c : Column) : List Token := .column c.column :: aliasTokens c.alias?

/-- The tokens of a table and its alias. -/
def Table.tokens (t : Table) : List Token := .table t.name :: aliasTokens t.alias?

/-- The tokens of an ON condition. -/
def onTokens : Option (ColumnName × ColumnName) → List Token
  | some (left, right) => [.keyword .on, .column left, .operator .equal, .column right]
  | none => []

/-- The tokens of a join. -/
def Join.tokens (j : Join) : List Token := .keyword .join :: (j.table.tokens ++ onTokens j.on?)

/-- The tokens of a comparison. -/
def Filter.tokens (f : Filter) : List Token :=
  [.keyword .filter, .column f.column, .operator f.operator, .literal f.literal]

/-- The entries of a list with commas between them. -/
def separated : List (List Token) → List Token
  | [] => []
  | [entry] => entry
  | entry :: entries => entry ++ .comma :: separated entries

/-- The entries of the SELECT list; without columns it is `*`. -/
def Select.entries (s : Select) : List (List Token) :=
  if s.columns.isEmpty then [[.star]] else s.columns.map Column.tokens

/-- The tokens of the clauses behind the FROM list. -/
def clauseTokens (joins : List Join) (filter? : Option Filter) : List Token :=
  joins.flatMap Join.tokens ++ (filter?.map Filter.tokens).getD []

/-- The tokens of a statement. -/
def Select.tokens (s : Select) : List Token :=
  .keyword .select :: (separated s.entries
    ++ .keyword .source :: (separated ((s.first :: s.others).map Table.tokens)
      ++ clauseTokens s.joins s.filter?))

/-! ## Layouts -/

/-- A name is bare or within delimiters. -/
inductive Wrapped (n : Identifier) : List Char → Prop where
  | bare : Wrapped n n.chars
  | bracketed : Wrapped n ('[' :: (n.chars ++ [']']))
  | quoted {quote : Char} (h : quote = '"' ∨ quote = '\x60') :
      Wrapped n (quote :: (n.chars ++ [quote]))

/-- Names with dots between them. -/
inductive Dotted : List Identifier → List Char → Prop where
  | one {n : Identifier} {s : List Char} (h : Wrapped n s) : Dotted [n] s
  | cons {n : Identifier} {names : List Identifier} {s rest : List Char} (h : Wrapped n s)
      (hrest : Dotted names rest) : Dotted (n :: names) (s ++ '.' :: rest)

/-- The texts of a token. -/
inductive Spelled : Token → List Char → Prop where
  | keyword {k : Keyword} {s : List Char} (h : s.map Text.asciiLower = k.text.toList) :
      Spelled (.keyword k) s
  | comma : Spelled .comma [',']
  | star : Spelled .star ['*']
  | table {n : Identifier} {s : List Char} (schemas : List Identifier)
      (h : Dotted (schemas ++ [n]) s) : Spelled (.table n) s
  | column {n : Identifier} {s : List Char} (h : Wrapped n s) : Spelled (.column ⟨none, n⟩) s
  | qualified {q n : Identifier} {s : List Char} (schemas : List Identifier)
      (h : Dotted (schemas ++ [q, n]) s) : Spelled (.column ⟨some q, n⟩) s
  | name {n : Identifier} {s : List Char} (h : Wrapped n s) : Spelled (.name n) s
  | operator (o : Comparison) : Spelled (.operator o) o.sign.toList
  | unequal : Spelled (.operator .notEqual) ['<', '>']
  | literal (l : Literal) : Spelled (.literal l) ('\'' :: (l.text.toList ++ ['\'']))

/-- Whether a word may end before a text: at blanks, a comma or an operator. -/
def endsToken (rest : List Char) : Bool :=
  rest.head?.all fun c => isBlank c || c == ',' || Pattern.isComparisonPart c

/-- The texts that show tokens in order. -/
inductive Layout : List Token → List Char → Prop where
  | nil {gap : List Char} (hgap : ∀ c ∈ gap, isBlank c = true) : Layout [] gap
  | cons {t : Token} {ts : List Token} {gap s rest : List Char}
      (hgap : ∀ c ∈ gap, isBlank c = true) (hs : Spelled t s)
      (hends : t.isWord = true → endsToken rest = true) (hrest : Layout ts rest) :
      Layout (t :: ts) (gap ++ (s ++ rest))

end JoinGraph.Plain
