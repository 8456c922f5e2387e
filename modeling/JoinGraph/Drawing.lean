import JoinGraph.Drawing.Sketch
import JoinGraph.Drawing.Options

/-!
# From statements to graphs

`Statement.draw` plans a graph and draws it: tables, aliases, fields, joins, and joins between
aliases. `Statement.graph` never fails; a fault becomes the diagnostic graph, and a statement with
nothing to draw the placeholder.
-/

namespace JoinGraph

/-- The relations of a statement: those of its complete joins, or guesses if there are none. -/
def relationsOf (c : Catalog) (joins : List WrittenJoin) (o : Options) : List Relation :=
  let read := joins.map (Relation.ofWritten c)
  if read.isEmpty && 1 < c.tables.length && o.infersJoins then Relation.guesses c else read

/-- The plan of a statement whose tables make the catalog `c`. -/
def Plan.ofStatement (c : Catalog) (s : Statement) (o : Options) : Plan :=
  let joins := completeJoins s.joins
  let catalog := c.withJoined joins
  let relations := relationsOf catalog joins o
  ⟨catalog, relations,
    FieldSets.merge catalog (FieldSets.collect catalog (ownedColumns catalog joins s)),
    fieldLabels catalog relations s, resultNames s⟩

/-- Draws a plan. -/
def Plan.sketch (p : Plan) (o : Options) : Except GraphFault Sketch := do
  let shown := (Sketch.empty.drawTables p.catalog).drawFields p
  let joined ← Sketch.drawRelations p shown p.relations
  return if o.drawsAliasJoins && !p.catalog.aliases.isEmpty then joined.drawAliasJoins p.relations
    else joined

/-- Draws a statement, or tells the fault that prevents it. -/
def Statement.draw (s : Statement) (o : Options) : Except GraphFault Graph := do
  let plan := Plan.ofStatement (← Catalog.ofTables s.tables) s o
  let sketch ← plan.sketch o
  if sketch.nodes.isEmpty then return Graph.placeholder
  else
    let graph : Graph := ⟨sketch.nodes, sketch.links, false, AliasMap.ofList plan.catalog.aliases⟩
    graph.check
    return graph

/-- The graph of a statement. -/
def Statement.graph (s : Statement) (o : Options) : Graph :=
  match s.draw o with
  | .ok graph => graph
  | .error fault => .diagnostic fault.message

end JoinGraph
