import JoinGraph.Statement
import JoinGraph.Graph

/-!
# The catalog of a statement

The tables a statement names and the aliases it binds to them. Aliases are bound when all tables
are known, so an alias that is also the name of a table is dropped; of several bindings of one
alias the first holds. Joins may name further tables later, but no further aliases, so what an
alias stands for (`Catalog.resolve`) never changes.
-/

namespace JoinGraph

/-- Tables and bound aliases, each in the order in which they were met, and each once. -/
structure Catalog where
  tables : List String
  aliases : List (String × String)
  deriving DecidableEq, Repr

namespace Catalog

/-- The catalog of nothing. -/
def empty : Catalog := ⟨[], []⟩

/-- Whether a name is bound as an alias. -/
def isAlias (c : Catalog) (name : String) : Bool := c.aliases.any (·.1 == name)

/-- Whether a name is the name of a table. -/
def isTable (c : Catalog) (name : String) : Bool := c.tables.contains name

/-- The table behind a qualifier: what an alias stands for, or the name itself. -/
def resolve (c : Catalog) (qualifier : String) : String :=
  match c.aliases.find? (·.1 == qualifier) with
  | some binding => binding.2
  | none => qualifier

/-- Adds a table that is not there yet. -/
def addTable (c : Catalog) (name : String) : Catalog :=
  if c.isTable name then c else { c with tables := c.tables ++ [name] }

/-- Adds the table that a qualifier names, unless it is known as a table or an alias. -/
def addUnknown (c : Catalog) (qualifier : String) : Catalog :=
  if c.isTable qualifier || c.isAlias qualifier then c else c.addTable qualifier

/-- Binds the alias of a table entry, if it may be bound. -/
def bind (c : Catalog) (entry : TableRef) : Catalog :=
  match entry.alias?.map Text.trim with
  | none => c
  | some name =>
    if name.isEmpty || name == Text.trim entry.name || c.isTable name || c.isAlias name then c
    else { c with aliases := c.aliases ++ [(name, Text.trim entry.name)] }

/-- The position of the first table without a name. -/
def blankPosition? (tables : List TableRef) : Option Nat :=
  tables.findIdx? fun t => Text.isBlankText t.name

/-- The catalog of the tables of a statement; a table without a name is a fault. -/
def ofTables (tables : List TableRef) : Except GraphFault Catalog :=
  match blankPosition? tables with
  | some position => .error (.emptyTableName position)
  | none =>
    let named := tables.foldl (fun c t => c.addTable (Text.trim t.name)) empty
    .ok (tables.foldl bind named)

end Catalog

end JoinGraph
