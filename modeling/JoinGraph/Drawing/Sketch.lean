import JoinGraph.Drawing.Column

/-!
# Drawing nodes and links

A `Sketch` is a graph in the making. Each step of drawing is a function on it: a node whose
identifier is taken is left out, and two tables are joined once, whatever the direction.
-/

namespace JoinGraph

/-- The nodes and links drawn so far, and the pairs of names that are joined. -/
structure Sketch where
  nodes : List Node
  links : List Link
  joined : List (String × String)

/-- All that is known of a statement before drawing. -/
structure Plan where
  catalog : Catalog
  relations : List Relation
  fields : FieldSets
  labels : List (String × String)
  results : List String

namespace Sketch

/-- Nothing drawn yet. -/
def empty : Sketch := ⟨[], [], []⟩

/-- Whether an identifier is taken. -/
def has (s : Sketch) (id : String) : Bool := s.nodes.any (·.id == id)

/-- Adds a node unless its identifier is taken. -/
def addNode (s : Sketch) (node : Node) : Sketch :=
  if s.has node.id then s else { s with nodes := s.nodes ++ [node] }

/-- Adds a link. -/
def addLink (s : Sketch) (link : Link) : Sketch := { s with links := s.links ++ [link] }

/-- A pair of names without direction: the lesser name first. -/
def pairOf (a b : String) : String × String := if a ≤ b then (a, b) else (b, a)

/-- Whether two names are joined. -/
def hasJoin (s : Sketch) (a b : String) : Bool := s.joined.contains (pairOf a b)

/-- Marks two names as joined. -/
def markJoin (s : Sketch) (a b : String) : Sketch := { s with joined := pairOf a b :: s.joined }

/-! ## Tables and fields -/

/-- Draws an alias and its link. -/
def drawAlias (s : Sketch) (binding : String × String) : Sketch :=
  (s.addNode (.ofAlias binding.1 binding.2)).addLink (.ofAlias binding.1 binding.2)

/-- Draws all tables, then all aliases. -/
def drawTables (s : Sketch) (c : Catalog) : Sketch :=
  let tables := (c.tables.filter fun name => !c.isAlias name).foldl
    (fun s name => s.addNode (.ofTable name)) s
  c.aliases.foldl drawAlias tables

/-- The node of a field, with the label `label`. -/
def fieldNode (p : Plan) (table field label : String) : Node :=
  .ofField table field label (p.results.contains field) (joinTarget? p.relations table field)

/-- Draws a field and its link, unless its identifier is taken. -/
def drawField (p : Plan) (s : Sketch) (table field label : String) : Sketch :=
  if s.has (fieldId table field) then s
  else (s.addNode (fieldNode p table field label)).addLink (.ofField table field)

/-- Draws the fields of all tables. -/
def drawFields (s : Sketch) (p : Plan) : Sketch :=
  let shown := (p.fields.filter fun entry =>
    p.catalog.isTable entry.1 && !p.catalog.isAlias entry.1).flatMap fun entry =>
      entry.2.map fun field => (entry.1, field)
  shown.foldl (fun s (table, field) =>
    drawField p s table field (labelOf p.labels (fieldId table field) field)) s

/-! ## Joins -/

/-- Draws a relation: a link between its tables and one between its fields, which are drawn if they
are not there. A second relation between the same tables is left out. -/
def drawRelation (p : Plan) (s : Sketch) (r : Relation) : Except GraphFault Sketch :=
  let source := tableId r.left.table
  let target := tableId r.right.table
  if !s.has source then .error (.unanchoredJoin r.left.table r.condition)
  else if !s.has target then .error (.unanchoredJoin r.right.table r.condition)
  else if s.hasJoin r.left.table r.right.table then .ok s
  else
    let s := s.markJoin r.left.table r.right.table
    let s := s.addLink (.ofJoin .tableJoin source target r.condition r.confidence)
    let s := drawField p s r.left.table r.left.field r.left.field
    let s := drawField p s r.right.table r.right.field r.right.field
    .ok (s.addLink (.ofJoin .fieldJoin (fieldId r.left.table r.left.field)
      (fieldId r.right.table r.right.field) r.condition r.confidence))

/-- Draws relations in order. -/
def drawRelations (p : Plan) : Sketch → List Relation → Except GraphFault Sketch
  | s, [] => .ok s
  | s, r :: rest =>
    match drawRelation p s r with
    | .error fault => .error fault
    | .ok s => drawRelations p s rest

/-- Draws the link between the names by which the two tables of a relation were written, if one of
them is an alias and they are not joined yet. -/
def drawAliasJoin (s : Sketch) (t : JoinTarget) : Sketch :=
  let source := t.tableAlias?.getD t.table
  let target := t.targetTableAlias?.getD t.targetTable
  if t.tableAlias?.isNone && t.targetTableAlias?.isNone then s
  else if source = target || s.hasJoin source target then s
  else
    (s.markJoin source target).addLink (.ofAliasJoin (tableId source) (tableId target)
      (source ++ "." ++ t.field ++ " = " ++ target ++ "." ++ t.targetField))

/-- Draws the joins between aliases. -/
def drawAliasJoins (s : Sketch) (relations : List Relation) : Sketch :=
  (relations.flatMap Relation.targets).foldl drawAliasJoin s

end Sketch

end JoinGraph
