import JoinGraph.Parsers
import JoinGraph.Drawing
import JoinGraph.Request

/-!
# From texts to results

`Parsers.generate` reads a text and draws it. Only a blank text has no result. A `Session` keeps
its parsers, its options, and the aliases of the last graph that shows a statement.
-/

namespace JoinGraph

/-- Why a text has no result. -/
inductive InputFault where
  | empty
  deriving DecidableEq, Repr

/-- The wording of the fault. -/
def InputFault.message : InputFault → String
  | empty => "SQL input is empty"

/-- The result for a text. -/
def Parsers.generate (p : Parsers) (o : Options) (sql : String) : Except InputFault Result :=
  match Text.nonBlank? sql with
  | none => .error .empty
  | some sql =>
    let (statement, parser) := p.statement sql
    .ok ⟨statement.graph o, statement, parser⟩

/-- The parsers that a request asks for. -/
def Request.allParsers (r : Request) : Parsers :=
  match r.parsers with
  | .auto => .ofDialect r.dialect
  | .patternsOnly => .patternsOnly

/-- The result of a request. -/
def Request.generate (r : Request) : Except InputFault Result :=
  r.allParsers.generate r.options r.sql

/-- The graph of a tree. A tree without a known shape yields the diagnostic graph. -/
def Tree.graph (t : Tree) (o : Options) : Graph :=
  match t.statement with
  | .ok statement => statement.graph o
  | .error fault => .diagnostic fault.message

/-! ## Sessions -/

/-- What is kept from one statement to the next. -/
structure Session where
  parsers : Parsers
  options : Options
  lastAliases : AliasMap

namespace Session

/-- A session before its first statement. -/
def start (parsers : Parsers) (options : Options) : Session := ⟨parsers, options, .empty⟩

/-- A session that reads by the generic grammar. -/
def default (options : Options) : Session := start (.ofDialect .generic) options

/-- The result for a text, and the session after it. -/
def generate (s : Session) (sql : String) : Except InputFault Result × Session :=
  match s.parsers.generate s.options sql with
  | .ok result =>
    (.ok result,
      if result.graph.isDiagnostic then s else { s with lastAliases := result.graph.aliases })
  | .error fault => (.error fault, s)

end Session

/-! ## Texts of JSON -/

/-- A message in place of an answer. -/
def errorJson (message : String) : Json := .object [("error", .string message)]

/-- The answer to the text of a request. -/
def answerRequest (text : String) : Json :=
  match Request.read text with
  | .error e => errorJson ("Invalid request format: " ++ e.message)
  | .ok request =>
    match request.generate with
    | .ok result => result.toJson
    | .error fault => errorJson fault.message

/-- The answer to the texts of a tree and of options, of which the latter may be blank. -/
def answerTree (tree options : String) : Json :=
  match Json.read tree with
  | .error e => errorJson ("Invalid AST JSON: " ++ e.message)
  | .ok v =>
    match if Text.isBlankText options then .ok .default else Options.read options with
    | .error e => errorJson ("Invalid options format: " ++ e.message)
    | .ok o => ((Tree.json v).graph o).toJson

end JoinGraph
