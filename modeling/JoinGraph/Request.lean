import JoinGraph.Drawing.Options
import JoinGraph.Json.Typed
import JoinGraph.Sql.Dialect

/-!
# Requests

What a caller asks for: the graph of one statement, read in a dialect by some of the parsers, and
drawn with some options. A request may come as a value or as a text; read from a text, a fault has
a place.
-/

namespace JoinGraph

open Json (Decoder Fields Reader)

/-- Which parsers are tried. -/
inductive ParserChoice where
  /-- the grammar, then pattern matching -/
  | auto
  /-- pattern matching only -/
  | patternsOnly
  deriving DecidableEq, Repr, Inhabited

/-- The choices of parsers by name. -/
def ParserChoice.names : List (String × ParserChoice) :=
  [("auto", auto), ("fallback", patternsOnly)]

/-- How a choice of parsers is called. -/
def ParserChoice.name : ParserChoice → String
  | auto => "auto"
  | patternsOnly => "fallback"

/-- A request for the graph of a statement. -/
structure Request where
  sql : String
  dialect : Sql.Dialect
  parsers : ParserChoice
  options? : Option Options
  deriving DecidableEq, Repr, Inhabited

namespace Request

/-- The options of the drawing. -/
def options (r : Request) : Options := r.options?.getD .default

/-- Reads a request. -/
def decode : Decoder Request :=
  .record "GraphRequest" (Request.mk <$> .required "sql" .text
    <*> .withDefault "dialect" .generic Sql.Dialect.decode
    <*> .withDefault "parser" .auto (.oneOf ParserChoice.names)
    <*> .optional "options" Options.decode)

/-- Writes a request. -/
def toJson (r : Request) : Json :=
  .object ([("sql", .string r.sql), ("dialect", .string r.dialect.name),
      ("parser", .string r.parsers.name)]
    ++ Json.optionalMember "options" Options.toJson r.options?)

end Request

/-! ## Reading from text -/

/-- Options of which some members were read; a member that is null was read too. -/
structure Options.Partial where
  inferJoins : Option (Option Bool)
  aliasJoins : Option (Option Bool)

/-- Reads options off a text. -/
def Options.reader : Reader Options := do
  let fields : List (Reader.TextField Options.Partial) :=
    [⟨"inferJoins", false, (·.inferJoins.isSome), fun p => do
        return { p with inferJoins := some (← Reader.orNull Reader.flag) }⟩,
      ⟨"aliasJoins", false, (·.aliasJoins.isSome), fun p => do
        return { p with aliasJoins := some (← Reader.orNull Reader.flag) }⟩]
  let p ← Reader.record "GraphOptions" fields ⟨none, none⟩
  return ⟨p.inferJoins.getD none, p.aliasJoins.getD none⟩

/-- The options that a text holds. -/
def Options.read (text : String) : Except Json.ReadError Options := Options.reader.run text

/-- A request of which some members were read. -/
structure Request.Partial where
  sql : Option String
  dialect : Option Sql.Dialect
  parsers : Option ParserChoice
  options : Option (Option Options)

/-- Reads a request off a text. -/
def Request.reader : Reader Request := do
  let fields : List (Reader.TextField Request.Partial) :=
    [⟨"sql", true, (·.sql.isSome), fun p => do
        return { p with sql := some (← Reader.stringCalled "a string") }⟩,
      ⟨"dialect", false, (·.dialect.isSome), fun p => do
        return { p with dialect := some (← Reader.oneOf Sql.Dialect.names) }⟩,
      ⟨"parser", false, (·.parsers.isSome), fun p => do
        return { p with parsers := some (← Reader.oneOf ParserChoice.names) }⟩,
      ⟨"options", false, (·.options.isSome), fun p => do
        return { p with options := some (← Reader.orNull Options.reader) }⟩]
  let p ← Reader.record "GraphRequest" fields ⟨none, none, none, none⟩
  return ⟨p.sql.getD "", p.dialect.getD .generic, p.parsers.getD .auto, p.options.getD none⟩

/-- The request that a text holds. -/
def Request.read (text : String) : Except Json.ReadError Request := Request.reader.run text

end JoinGraph
