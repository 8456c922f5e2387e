import JoinGraph.Graph.Json
import JoinGraph.Statement.Json

/-!
# Results

What is known of a statement in the end: its graph, what it says, and which parser read it.
-/

namespace JoinGraph

open Json (Decoder)

/-- The parsers, in the order in which they are tried. -/
inductive ParserKind where
  /-- a function of the host -/
  | function
  /-- a grammar -/
  | grammar
  /-- the matching of patterns -/
  | patterns
  deriving DecidableEq, Repr, Inhabited

/-- How a parser is called. -/
def ParserKind.name : ParserKind → String
  | function => "grammar-fn"
  | grammar => "grammar"
  | patterns => "fallback"

/-- The parsers by name. -/
def ParserKind.names : List (String × ParserKind) :=
  [function, grammar, patterns].map fun kind => (kind.name, kind)

/-- The result for one statement. -/
structure Result where
  graph : Graph
  statement : Statement
  parser : ParserKind
  deriving DecidableEq, Inhabited

/-- Writes a result. -/
def Result.toJson (r : Result) : Json :=
  .object [("graph", r.graph.toJson), ("statement", r.statement.toJson),
    ("parserUsed", .string r.parser.name)]

/-- Reads a result. -/
def Result.decode : Decoder Result :=
  .record "GraphResult" (Result.mk <$> .required "graph" Graph.decode
    <*> .required "statement" Statement.decode
    <*> .required "parserUsed" (.oneOf ParserKind.names))

end JoinGraph
