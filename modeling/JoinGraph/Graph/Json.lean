import JoinGraph.Graph
import JoinGraph.Json.Decoding

/-!
# Graphs in JSON

The written form of a graph. Parts that are absent are left out, and so is an empty map of aliases.
-/

namespace JoinGraph

open Json (Decoder Fields)

/-! ## Names of kinds -/

/-- The kinds of nodes by name. -/
def NodeKind.names : List (String × NodeKind) := [table, field].map fun k => (k.name, k)

/-- The kinds of links by name. -/
def LinkKind.names : List (String × LinkKind) :=
  [fieldTable, tableJoin, fieldJoin, aliasTable].map fun k => (k.name, k)

/-- The confidences by name. -/
def Confidence.names : List (String × Confidence) := [parsed, inferred].map fun c => (c.name, c)

/-- Reads a kind of link. -/
def LinkKind.decode : Decoder LinkKind := .oneOf names

/-! ## Nodes and links -/

/-- Writes a join target. -/
def JoinTarget.toJson (t : JoinTarget) : Json :=
  .object ([("table", .string t.table), ("field", .string t.field)]
    ++ Json.optionalMember "tableAlias" .string t.tableAlias?
    ++ [("targetTable", .string t.targetTable), ("targetField", .string t.targetField)]
    ++ Json.optionalMember "targetTableAlias" .string t.targetTableAlias?
    ++ [("isSourceField", .bool t.isSource)])

/-- Reads a join target. -/
def JoinTarget.decode : Decoder JoinTarget :=
  .record "JoinTarget" (JoinTarget.mk <$> .required "table" .text <*> .required "field" .text
    <*> .optional "tableAlias" .text <*> .required "targetTable" .text
    <*> .required "targetField" .text <*> .optional "targetTableAlias" .text
    <*> .required "isSourceField" .flag)

/-- Writes a node. -/
def Node.toJson (n : Node) : Json :=
  .object ([("id", .string n.id), ("name", .string n.name),
      ("originalName", .string n.ownName), ("type", .string n.kind.name)]
    ++ Json.optionalMember "isAlias" .bool n.isAlias?
    ++ Json.optionalMember "aliasFor" .string n.aliasFor?
    ++ Json.optionalMember "table" .string n.table?
    ++ Json.optionalMember "isResult" .bool n.isResult?
    ++ Json.optionalMember "isJoinField" .bool n.isJoinField?
    ++ Json.optionalMember "joinTarget" JoinTarget.toJson n.joinTarget?)

/-- Reads a node. -/
def Node.decode : Decoder Node :=
  .record "Node" (Node.mk <$> .required "id" .text <*> .required "name" .text
    <*> .required "originalName" .text <*> .required "type" (.oneOf NodeKind.names)
    <*> .optional "isAlias" .flag <*> .optional "aliasFor" .text <*> .optional "table" .text
    <*> .optional "isResult" .flag <*> .optional "isJoinField" .flag
    <*> .optional "joinTarget" JoinTarget.decode)

/-- Writes a link. -/
def Link.toJson (l : Link) : Json :=
  .object ([("source", .string l.source), ("target", .string l.target),
      ("type", .string l.kind.name)]
    ++ Json.optionalMember "condition" .string l.condition?
    ++ Json.optionalMember "isAliasLink" .bool l.isAliasLink?
    ++ Json.optionalMember "isAliasJoin" .bool l.isAliasJoin?
    ++ Json.optionalMember "confidence" (.string ·.name) l.confidence?)

/-- Reads a link. -/
def Link.decode : Decoder Link :=
  .record "Link" (Link.mk <$> .required "source" .text <*> .required "target" .text
    <*> .required "type" LinkKind.decode <*> .optional "condition" .text
    <*> .optional "isAliasLink" .flag <*> .optional "isAliasJoin" .flag
    <*> .optional "confidence" (.oneOf Confidence.names))

/-! ## Graphs -/

/-- Writes the bindings of aliases. -/
def AliasMap.toJson (m : AliasMap) : Json :=
  .object (m.entries.map fun e => (e.1, .string e.2))

/-- Reads the bindings of aliases. -/
def AliasMap.decode : Decoder AliasMap := fun v => AliasMap.ofList <$> Decoder.tableOf .text v

/-- Writes a graph. -/
def Graph.toJson (g : Graph) : Json :=
  .object ([("nodes", .array (g.nodes.map Node.toJson)),
    ("links", .array (g.links.map Link.toJson)),
      ("diagnostic", .bool g.isDiagnostic)]
    ++ Json.optionalMember "aliases" AliasMap.toJson
      (if g.aliases.isEmpty then none else some g.aliases))

/-- Reads a graph. -/
def Graph.decode : Decoder Graph :=
  .record "Graph" (Graph.mk <$> .required "nodes" (.listOf Node.decode)
    <*> .required "links" (.listOf Link.decode) <*> .withDefault "diagnostic" false .flag
    <*> .withDefault "aliases" .empty AliasMap.decode)

end JoinGraph
