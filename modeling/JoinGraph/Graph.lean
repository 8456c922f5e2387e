import JoinGraph.Graph.AliasMap

/-!
# Graphs of tables, fields and joins

A graph has nodes for tables, aliases and fields, and four kinds of links between them. Node
identifiers are spelled from names: `tableId`, `fieldId`. `Graph.check` tells whether a graph is
well built: links end at nodes, and each field belongs to exactly one table.

Two graphs stand for something else: `Graph.diagnostic` for an error, `Graph.placeholder` for a
statement in which nothing was found to draw.
-/

namespace JoinGraph

/-! ## Nodes -/

/-- What a node stands for. An alias is a table node with `aliasFor`. -/
inductive NodeKind where
  | table | field
  deriving DecidableEq, Repr, Inhabited

/-- How a kind of node is called. -/
def NodeKind.name : NodeKind → String
  | table => "table"
  | field => "field"

/-- One side of a joined pair of fields, together with the other side. -/
structure JoinTarget where
  table : String
  field : String
  tableAlias? : Option String
  targetTable : String
  targetField : String
  targetTableAlias? : Option String
  isSource : Bool
  deriving DecidableEq, Repr, Inhabited

/-- A table, an alias or a field. -/
structure Node where
  id : String
  name : String
  ownName : String
  kind : NodeKind
  isAlias? : Option Bool
  aliasFor? : Option String
  table? : Option String
  isResult? : Option Bool
  isJoinField? : Option Bool
  joinTarget? : Option JoinTarget
  deriving DecidableEq, Repr, Inhabited

/-- The identifier of a table or alias. -/
def tableId (name : String) : String := "table:" ++ name

/-- The identifier of a field of a table. -/
def fieldId (table field : String) : String := "field:" ++ table ++ "." ++ field

namespace Node

/-- The node of a table. -/
def ofTable (name : String) : Node :=
  ⟨tableId name, name, name, .table, none, none, none, none, none, none⟩

/-- The node of an alias of a table. -/
def ofAlias (name table : String) : Node :=
  ⟨tableId name, name ++ " (" ++ table ++ ")", table, .table, some true, some table, none, none,
    none, none⟩

/-- The node of a field of a table, shown as `display`. -/
def ofField (table field display : String) (isResult : Bool) (target : Option JoinTarget) : Node :=
  ⟨fieldId table field, display, field, .field, none, none, some table, some isResult,
    some target.isSome, target⟩

/-- Whether the node is an alias. -/
def isAlias (n : Node) : Bool := n.isAlias?.getD false

/-- Whether the node is a field of the result. -/
def isResult (n : Node) : Bool := n.isResult?.getD false

/-- Whether the node is a field that is joined on. -/
def isJoinField (n : Node) : Bool := n.isJoinField?.getD false

end Node

/-! ## Links -/

/-- What a link connects. -/
inductive LinkKind where
  /-- a field with its table -/
  | fieldTable
  /-- two joined tables or aliases -/
  | tableJoin
  /-- two joined fields -/
  | fieldJoin
  /-- an alias with its table -/
  | aliasTable
  deriving DecidableEq, Repr, Inhabited

/-- How a kind of link is called. -/
def LinkKind.name : LinkKind → String
  | fieldTable => "field-table"
  | tableJoin => "table-join"
  | fieldJoin => "field-join"
  | aliasTable => "alias-table"

/-- Where a join comes from. -/
inductive Confidence where
  /-- the statement says so -/
  | parsed
  /-- guessed from the order of the tables -/
  | inferred
  deriving DecidableEq, Repr, Inhabited

/-- How a confidence is called. -/
def Confidence.name : Confidence → String
  | parsed => "parsed"
  | inferred => "inferred"

/-- A directed link between two nodes, given by their identifiers. -/
structure Link where
  source : String
  target : String
  kind : LinkKind
  condition? : Option String
  isAliasLink? : Option Bool
  isAliasJoin? : Option Bool
  confidence? : Option Confidence
  deriving DecidableEq, Repr, Inhabited

namespace Link

/-- The link of a field to its table. -/
def ofField (table field : String) : Link :=
  ⟨fieldId table field, tableId table, .fieldTable, none, none, none, none⟩

/-- The link of an alias to its table. -/
def ofAlias (name table : String) : Link :=
  ⟨tableId name, tableId table, .aliasTable, none, some true, none, none⟩

/-- A join of two tables or two fields. -/
def ofJoin (kind : LinkKind) (source target condition : String) (confidence : Confidence) : Link :=
  ⟨source, target, kind, some condition, none, none, some confidence⟩

/-- A join drawn between aliases, as it is written. -/
def ofAliasJoin (source target condition : String) : Link :=
  ⟨source, target, .tableJoin, some condition, none, some true, some .parsed⟩

/-- Whether the link is a join between aliases. -/
def isAliasJoin (l : Link) : Bool := l.isAliasJoin?.getD false

end Link

/-! ## Graphs -/

/-- Nodes and links in the order in which they were drawn, and the aliases of the statement. -/
structure Graph where
  nodes : List Node
  links : List Link
  /-- whether the graph only tells that none could be drawn -/
  isDiagnostic : Bool
  aliases : AliasMap
  deriving DecidableEq, Inhabited

/-- Why no graph was drawn, or why a graph is not well built. -/
inductive GraphFault where
  | emptyTableName (position : Nat)
  | unanchoredJoin (table condition : String)
  | danglingLink (kind : LinkKind) (source target : String)
  | orphanField (field table : String)
  deriving DecidableEq, Repr

/-- The wording of a fault. -/
def GraphFault.message : GraphFault → String
  | emptyTableName position =>
    "table reference at position " ++ String.ofList (Nat.toDigits 10 position)
      ++ " has an empty name"
  | unanchoredJoin table condition =>
    "join relation " ++ condition ++ " references table \x60" ++ table ++ "\x60 which has no node"
  | danglingLink kind source target =>
    kind.name ++ " link " ++ source ++ " -> " ++ target ++ " points at a missing node"
  | orphanField field table =>
    "field node \x60" ++ field ++ "\x60 is owned by missing table \x60" ++ table ++ "\x60"

namespace Graph

/-- A graph of one table with one field, whose identifier is spelled without the table. -/
def ofSingleField (table field shown : String) (isDiagnostic : Bool) : Graph where
  nodes := [Node.ofTable table,
    { Node.ofField table shown shown true none with id := "field:" ++ field }]
  links := [{ Link.ofField table field with source := "field:" ++ field }]
  isDiagnostic := isDiagnostic
  aliases := .empty

/-- The graph that shows an error text in place of a statement. -/
def diagnostic (message : String) : Graph :=
  ofSingleField "Parse Error" "Error Message" message true

/-- The table of the graph that stands for a statement with nothing to draw. -/
def placeholderTable : String := "Query Result"

/-- The graph of a statement with nothing to draw. -/
def placeholder : Graph := ofSingleField placeholderTable "data" "data" false

/-- The first node with an identifier. -/
def node? (g : Graph) (id : String) : Option Node := g.nodes.find? (·.id == id)

/-- The nodes of tables and aliases. -/
def tables (g : Graph) : List Node := g.nodes.filter (·.kind == .table)

/-- The nodes of fields. -/
def fields (g : Graph) : List Node := g.nodes.filter (·.kind == .field)

/-- The links of one kind. -/
def linksOf (g : Graph) (kind : LinkKind) : List Link := g.links.filter (·.kind == kind)

/-- Whether the graph has the form of `placeholder`: two nodes, one of them its table. -/
def isPlaceholder (g : Graph) : Bool :=
  !g.isDiagnostic && (g.node? (tableId placeholderTable)).isSome && g.nodes.length == 2

/-- The first link of a kind between two nodes, in either direction. -/
def linkBetween? (g : Graph) (kind : LinkKind) (a b : String) : Option Link :=
  (g.linksOf kind).find? fun l =>
    (l.source == a && l.target == b) || (l.source == b && l.target == a)

/-! ### Well-built graphs -/

/-- Whether some node has the identifier. -/
def has (g : Graph) (id : String) : Bool := g.nodes.any (·.id == id)

/-- The first link that does not end at nodes. -/
def danglingLink? (g : Graph) : Option Link :=
  g.links.find? fun l => !(g.has l.source && g.has l.target)

/-- The table that a field names as its own. -/
def ownerOf (field : Node) : String := field.table?.getD ""

/-- Whether a field has one link to a table, and the table it names is a node. -/
def isOwned (g : Graph) (field : Node) : Bool :=
  ((g.linksOf .fieldTable).filter (·.source == field.id)).length == 1
    && g.has (tableId (ownerOf field))

/-- The first field that is not owned. -/
def orphanField? (g : Graph) : Option Node := g.fields.find? fun f => !g.isOwned f

/-- Tells the first fault of a graph: first of its links, then of its fields. -/
def check (g : Graph) : Except GraphFault Unit :=
  match g.danglingLink? with
  | some l => .error (.danglingLink l.kind l.source l.target)
  | none =>
    match g.orphanField? with
    | some f => .error (.orphanField f.id (ownerOf f))
    | none => .ok ()

end Graph

end JoinGraph
