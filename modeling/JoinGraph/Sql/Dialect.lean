import JoinGraph.Json.Decoding
import JoinGraph.Text.Trim

/-!
# Dialects

The dialects of SQL that can be asked for, and what sets them apart: which characters make a word,
how strings are quoted, and which constructs are known. `generic` knows the constructs of many
others.
-/

namespace JoinGraph.Sql

open Json (Decoder)

/-- The dialects of SQL. -/
inductive Dialect where
  | generic | ansi | bigquery | clickhouse | databricks | duckdb | hive | mssql | mysql | postgres
  | redshift | snowflake | sqlite
  deriving DecidableEq, Repr, Inhabited

namespace Dialect

/-- All dialects. -/
def all : List Dialect :=
  [generic, ansi, bigquery, clickhouse, databricks, duckdb, hive, mssql, mysql, postgres, redshift,
    snowflake, sqlite]

/-- How a dialect is asked for. -/
def name : Dialect → String
  | generic => "generic"
  | ansi => "ansi"
  | bigquery => "bigquery"
  | clickhouse => "clickhouse"
  | databricks => "databricks"
  | duckdb => "duckdb"
  | hive => "hive"
  | mssql => "mssql"
  | mysql => "mysql"
  | postgres => "postgres"
  | redshift => "redshift"
  | snowflake => "snowflake"
  | sqlite => "sqlite"

/-- How a dialect is called in a message: its name with a capital. -/
def title (d : Dialect) : String :=
  match d.name.toList with
  | [] => ""
  | c :: rest => String.ofList (Char.ofNat (c.toNat - 32) :: rest)

/-- The dialects by name. -/
def names : List (String × Dialect) := all.map fun d => (d.name, d)

/-- Reads a dialect. -/
def decode : Decoder Dialect := .oneOf names

/-! ## Words -/

/-- Whether a character may begin a word. -/
def startsWord : Dialect → Char → Bool
  | generic, c | mssql, c => Text.isAlphabetic c || c == '_' || c == '#' || c == '@'
  | ansi, c => Text.isAsciiLetter c
  | bigquery, c => Text.isAsciiLetter c || c == '_' || c == '@'
  | clickhouse, c | databricks, c | snowflake, c => Text.isAsciiLetter c || c == '_'
  | duckdb, c => Text.isAlphabetic c || c == '_'
  | hive, c => Text.isAsciiLetter c || Text.isAsciiDigit c || c == '$'
  | mysql, c =>
    Text.isAlphabetic c || c == '_' || c == '$' || c == '@'
      || (0x80 ≤ c.toNat && c.toNat ≤ 0xFFFF)
  | postgres, c => Text.isAlphabetic c || c == '_' || 128 ≤ c.toNat
  | redshift, c => Text.isAlphabetic c || c == '_' || c == '#' || 128 ≤ c.toNat
  | sqlite, c => Text.isAsciiLetter c || c == '_' || (0x7F ≤ c.toNat && c.toNat ≤ 0xFFFF)

/-- Whether a character may go on a word. -/
def continuesWord (d : Dialect) (c : Char) : Bool :=
  match d with
  | generic | mssql =>
    Text.isAlphabetic c || Text.isAsciiDigit c || c == '@' || c == '$' || c == '#' || c == '_'
  | ansi | bigquery => Text.isAsciiLetter c || Text.isAsciiDigit c || c == '_'
  | duckdb => Text.isAlphabetic c || Text.isAsciiDigit c || c == '$' || c == '_'
  | hive => d.startsWord c || c == '_' || c == '{' || c == '}'
  | postgres | redshift | snowflake => d.startsWord c || Text.isAsciiDigit c || c == '$'
  | _ => d.startsWord c || Text.isAsciiDigit c

/-- The character that closes a delimited word opened by `c`, if `c` opens one. -/
def closingDelimiter? (d : Dialect) (c : Char) : Option Char :=
  match c with
  | '"' =>
    match d with
    | bigquery | databricks | mysql => none
    | _ => some '"'
  | '\x60' =>
    match d with
    | mssql | postgres => none
    | _ => some '\x60'
  | '[' =>
    match d with
    | mssql | sqlite => some ']'
    | _ => none
  | _ => none

/-- Whether a word may begin with digits. -/
def wordsMayBeginWithDigits : Dialect → Bool
  | hive | mysql => true
  | _ => false

/-! ## Strings, numbers and comments -/

/-- Whether a backslash escapes the next character of a string. -/
def backslashEscapes : Dialect → Bool
  | bigquery | clickhouse | mysql | redshift | snowflake => true
  | _ => false

/-- Whether an escaped `%` or `_` keeps its backslash. -/
def keepsWildcardEscapes (d : Dialect) : Bool := d == mysql

/-- Whether three quotes in a row open a string. -/
def tripleQuotes (d : Dialect) : Bool := d == bigquery

/-- Whether `B` before a quote makes a string of bytes. -/
def byteStrings : Dialect → Bool
  | bigquery | generic | mysql | postgres => true
  | _ => false

/-- Whether `R` before a quote makes a string without escapes. -/
def rawStrings (d : Dialect) : Bool := d == bigquery || d == generic

/-- Whether `E` before a quote makes a string with escapes. -/
def escapeStrings : Dialect → Bool
  | generic | postgres | redshift => true
  | _ => false

/-- Whether `U&` before a quote makes a string with escaped code points. -/
def unicodeStrings (d : Dialect) : Bool := d == generic || d == postgres

/-- Whether `$` only begins placeholders, not quoted strings. -/
def dollarPlaceholders (d : Dialect) : Bool := d == sqlite

/-- Whether digits may be grouped by underscores. -/
def groupsDigits (d : Dialect) : Bool := d == clickhouse || d == postgres

/-- Whether `#` begins a comment. -/
def hashComments : Dialect → Bool
  | bigquery | hive | mysql | snowflake => true
  | _ => false

/-- Whether two slashes begin a comment. -/
def slashComments (d : Dialect) : Bool := d == snowflake

/-- Whether two hyphens begin a comment only before a blank. -/
def spacedComments (d : Dialect) : Bool := d == mysql

/-- Whether comments may be nested. -/
def nestsComments : Dialect → Bool
  | ansi | clickhouse | databricks | generic | mssql | postgres => true
  | _ => false

/-- Whether the operators on geometric values are known; `?` is one of them then. -/
def geometricOperators (d : Dialect) : Bool := d == postgres || d == redshift

/-- Whether `|>` hands the rows of a query on to another stage. -/
def stages (d : Dialect) : Bool := d == bigquery || d == generic

/-- Whether two slashes divide. -/
def slashDivision (d : Dialect) : Bool := d == duckdb || d == generic

/-! ## Queries -/

/-- Whether a query may begin with FROM. -/
def fromFirst : Dialect → Bool
  | clickhouse | duckdb | generic => true
  | _ => false

/-- Whether the SELECT list may be empty. -/
def emptyProjection (d : Dialect) : Bool := d == generic || d == postgres

/-- Whether lists may end with a comma. -/
def trailingCommas (d : Dialect) : Bool := d == duckdb || d == snowflake

/-- Whether the SELECT list may end with a comma. -/
def trailingCommaInProjection (d : Dialect) : Bool :=
  d == bigquery || d == generic || d.trailingCommas

/-- Whether `TOP` stands before `DISTINCT`. -/
def topFirst (d : Dialect) : Bool := d == redshift

/-- Whether columns may be excluded behind the SELECT list. -/
def selectExclude (d : Dialect) : Bool := d == generic || d == redshift

/-- Whether all members of a value may be selected. -/
def memberWildcard (d : Dialect) : Bool := d == bigquery || d == snowflake

/-- Whether rows may be ordered by all columns. -/
def orderByAll (d : Dialect) : Bool := d == clickhouse || d == duckdb

/-- Whether rows may be connected into trees. -/
def connectBy : Dialect → Bool
  | generic | mssql | redshift | snowflake => true
  | _ => false

/-- Whether a window may be named after another one. -/
def windowReference : Dialect → Bool
  | bigquery | clickhouse | generic => true
  | _ => false

/-- Whether `name = expression` in the SELECT list names the expression. -/
def equalsAlias (d : Dialect) : Bool := d == mssql

/-- Whether `LIMIT` takes an offset before a comma. -/
def limitComma : Dialect → Bool
  | clickhouse | generic | mysql | sqlite => true
  | _ => false

/-- Whether `VALUES` may stand in a FROM list. -/
def valuesAsTable : Dialect → Bool
  | databricks | generic | snowflake => true
  | _ => false

/-- Whether `UNNEST` is a table of its own kind. -/
def unnestTable : Dialect → Bool
  | bigquery | generic | postgres | redshift => true
  | _ => false

/-- Whether a table may be put into parentheses. -/
def parenthesizedTable (d : Dialect) : Bool := d == generic || d == snowflake

/-- Whether nested values are reached by brackets and names. -/
def pathAccess (d : Dialect) : Bool := d == redshift || d == snowflake

/-- Whether a cross join may have a condition. -/
def crossJoinCondition (d : Dialect) : Bool := d == mysql

/-- Whether joins without conditions group to the left. -/
def joinsGroupLeft (d : Dialect) : Bool := d != snowflake

/-- Whether two periods in a name skip a schema. -/
def doubleDots (d : Dialect) : Bool := d == mssql || d == snowflake

/-- Whether `PREWHERE`, `SETTINGS`, `FORMAT` and the like are known. -/
def columnStoreClauses (d : Dialect) : Bool := d == clickhouse || d == generic

/-- Whether some columns may be excluded from a wildcard by `EXCLUDE`. -/
def wildcardExclude : Dialect → Bool
  | duckdb | generic | redshift | snowflake => true
  | _ => false

/-- Whether some columns may be excluded from a wildcard by `EXCEPT`. -/
def wildcardExcept : Dialect → Bool
  | bigquery | clickhouse | databricks | duckdb | generic => true
  | _ => false

/-- Whether some columns of a wildcard may be replaced. -/
def wildcardReplace : Dialect → Bool
  | bigquery | clickhouse | duckdb | generic | snowflake => true
  | _ => false

/-- Whether a wildcard may be filtered and its columns renamed. -/
def wildcardRename (d : Dialect) : Bool := d == generic || d == snowflake

/-- Whether grouping sets are expressions of a GROUP BY list. -/
def groupingExpressions : Dialect → Bool
  | bigquery | databricks | duckdb | generic | hive | mssql | postgres | redshift | snowflake
  | clickhouse => true
  | _ => false

/-- Whether GROUP BY may be modified by `WITH`. -/
def groupModifiers (d : Dialect) : Bool := d == clickhouse || d == generic

/-- Whether a former state of a table can be read. -/
def tableVersions : Dialect → Bool
  | bigquery | mssql | snowflake => true
  | _ => false

/-- Whether a table may be sampled before its alias. -/
def samplesBeforeAlias (d : Dialect) : Bool := d == hive

/-- Whether a table may be limited to some partitions. -/
def tablePartitions (d : Dialect) : Bool := d == generic || d == mysql

/-- Whether a table may be told which indexes to use. -/
def indexHints (d : Dialect) : Bool := d == mysql

/-- Whether patterns of rows can be searched for. -/
def rowPatterns (d : Dialect) : Bool := d == generic || d == snowflake

/-! ## Expressions -/

/-- Whether an interval needs a unit, and its value may be a whole expression. -/
def intervalNeedsUnit : Dialect → Bool
  | ansi | bigquery | clickhouse | databricks | hive | mysql => true
  | _ => false

/-- Whether `TRUE` and `FALSE` are values. -/
def booleanLiterals (d : Dialect) : Bool := d != mssql

/-- Whether a type may be made an array by brackets behind it. -/
def bracketArrayTypes : Dialect → Bool
  | duckdb | generic | postgres | redshift => true
  | _ => false

/-- Whether a function may be passed a lambda. -/
def lambdas : Dialect → Bool
  | clickhouse | databricks | duckdb => true
  | _ => false

/-- Whether `STRUCT` makes a value. -/
def structLiterals : Dialect → Bool
  | bigquery | databricks | generic => true
  | _ => false

/-- Whether braces make a value. -/
def dictionaryLiterals : Dialect → Bool
  | clickhouse | duckdb | generic | snowflake => true
  | _ => false

/-- Whether an aggregate may be filtered. -/
def filteredAggregates : Dialect → Bool
  | clickhouse | databricks | duckdb | generic | hive | postgres | snowflake | sqlite => true
  | _ => false

/-- Whether nulls may be ignored inside the arguments of a function. -/
def nullTreatmentInArguments : Dialect → Bool
  | bigquery | generic | snowflake => true
  | _ => false

/-- Whether a query may be the only argument of a function. -/
def queryArgument (d : Dialect) : Bool := d == snowflake

/-- Whether an argument may be named by an expression. -/
def expressionNamesArgument (d : Dialect) : Bool := d == mssql || d == postgres

/-- Whether `NOTNULL` tests for a value. -/
def notNullOperator : Dialect → Bool
  | duckdb | postgres | redshift | sqlite => true
  | _ => false

/-- Whether `!` before an expression negates it. -/
def bangNegates (d : Dialect) : Bool := d == hive || d == mysql

/-- Whether `!` behind an expression is the factorial. -/
def factorial (d : Dialect) : Bool := d == postgres

/-- Whether any word may name a part of a date. -/
def customDateParts : Dialect → Bool
  | generic | postgres | snowflake => true
  | _ => false

/-- Whether a string may name a part of a date. -/
def quotedDateParts (d : Dialect) : Bool := d.customDateParts || d == redshift

/-- Whether the type that a value is converted to stands first. -/
def convertsTypeFirst (d : Dialect) : Bool := d == mssql || d == redshift

/-- Whether a conversion that fails may yield null. -/
def triesConversion (d : Dialect) : Bool := d == generic || d == mssql

/-- Whether text is searched by `MATCH`. -/
def textSearch (d : Dialect) : Bool := d == generic || d == mysql

/-- Whether the characters to trim may follow a comma. -/
def trimList : Dialect → Bool
  | bigquery | duckdb | generic | snowflake => true
  | _ => false

/-- Whether `INTERVAL` may be a name. -/
def namesInterval (d : Dialect) : Bool := d == postgres || d == snowflake

/-- Whether braces behind `MAP` make a value. -/
def mapLiterals (d : Dialect) : Bool := d == duckdb || d == generic

/-- Whether `(+)` behind a column makes its join an outer one. -/
def outerJoinMark (d : Dialect) : Bool := d == redshift || d == snowflake

/-- Whether bits may be shifted. -/
def bitShifts : Dialect → Bool
  | duckdb | generic | postgres | redshift => true
  | _ => false

/-- Whether operators may be called by name. -/
def namedOperators (d : Dialect) : Bool := d == generic || d == postgres

/-- Whether an empty list may follow `IN`. -/
def emptyInList (d : Dialect) : Bool := d == sqlite || d == duckdb

end Dialect

end JoinGraph.Sql
