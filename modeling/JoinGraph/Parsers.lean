import JoinGraph.Result
import JoinGraph.Shape
import JoinGraph.Pattern
import JoinGraph.Sql

/-!
# Parsers in order

A statement is read by the first parser that yields a tree: a function of the host, then a
grammar, then the matching of patterns, which always yields one. What makes a parser fail does not
matter.
-/

namespace JoinGraph

/-- What a parser makes of a text. -/
inductive Reply where
  | tree (tree : Tree)
  /-- the parser does not know the text -/
  | failed (message : String)
  /-- the parser broke off -/
  | aborted (message : String)

/-- The tree of a reply. -/
def Reply.tree? : Reply → Option Tree
  | tree t => some t
  | failed _ => none
  | aborted _ => none

/-- A parser of statements. -/
abbrev Parser := String → Reply

/-- The grammar of a dialect as a parser. -/
def Parser.ofDialect (d : Sql.Dialect) : Parser := fun sql =>
  match Sql.parse d sql with
  | .ok select => .tree (.shaped (.grammar select))
  | .error failure => .failed failure.text

/-- The parsers that are tried before patterns are matched. -/
structure Parsers where
  function? : Option Parser
  grammar? : Option Parser

/-- A tree and the parser that yielded it. -/
structure Reading where
  tree : Tree
  parser : ParserKind

namespace Parsers

/-- No parser but the matching of patterns. -/
def patternsOnly : Parsers := ⟨none, none⟩

/-- The grammar of a dialect. -/
def ofDialect (d : Sql.Dialect) : Parsers := ⟨none, some (.ofDialect d)⟩

/-- Whether any parser is tried before patterns are matched. -/
def hasGrammar (p : Parsers) : Bool := p.function?.isSome || p.grammar?.isSome

/-- Reads a text by matching patterns. -/
def matchPatterns (sql : String) : Reading := ⟨.shaped (.flat (Pattern.read sql)), .patterns⟩

/-- Reads a text by one parser. -/
def readBy (parser? : Option Parser) (kind : ParserKind) (sql : String) : Option Reading := do
  return ⟨← ((← parser?) sql).tree?, kind⟩

/-- Reads a text by the first parser that yields a tree. -/
def read (p : Parsers) (sql : String) : Reading :=
  (readBy p.function? .function sql <|> readBy p.grammar? .grammar sql).getD (matchPatterns sql)

/-- The statement of a text. A tree without a known shape counts for nothing. -/
def statement (p : Parsers) (sql : String) : Statement × ParserKind :=
  let reading := p.read sql
  match reading.tree.statement with
  | .ok statement => (statement, reading.parser)
  | .error _ => ((Pattern.read sql).statement, .patterns)

/-- Which parsers there are, in words. -/
def summary (p : Parsers) : String :=
  let shown (flag : Bool) : String := if flag then "true" else "false"
  "StatementParser \x7b grammar_fn: " ++ shown p.function?.isSome ++ ", grammar: "
    ++ shown p.grammar?.isSome ++ " \x7d"

end Parsers

end JoinGraph
