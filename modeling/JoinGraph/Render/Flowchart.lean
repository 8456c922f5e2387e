import JoinGraph.Render.Listing

/-!
# Flowcharts

A graph in the language of flowcharts. Each table is a box around its fields, an alias hangs on
its table by a dotted line, and each join is a line with its condition.
-/

namespace JoinGraph.Render

/-- A character of a name, as it stands in an identifier: all but letters and digits are spelled
out. -/
def idCharacter (c : Char) : List Char :=
  if Text.isAsciiLetter c || Text.isAsciiDigit c then [c]
  else if c = '_' then ['_', '_']
  else '_' :: Nat.toDigits 16 c.toNat ++ ['_']

/-- The identifier of a node in a flowchart. -/
def chartId (id : String) : String :=
  let (kind, name) := (Text.splitOnce? ':' id.toList).getD ("node".toList, id.toList)
  String.ofList (kind ++ '_' :: name.flatMap idCharacter)

/-- A character of a label. -/
def labelCharacter (c : Char) : List Char :=
  if c = '"' then "#quot;".toList else if c = '\n' then [' '] else [c]

/-- A text as a label. -/
def label (text : String) : String :=
  "\"" ++ String.ofList (text.toList.flatMap labelCharacter) ++ "\""

/-- The line of a field. -/
def fieldBox (f : Node) : String := "        " ++ chartId f.id ++ "[" ++ label f.name ++ "]"

/-- The lines of a table and its fields. -/
def tableBox (g : Graph) (table : Node) : List String :=
  ("    subgraph " ++ chartId table.id ++ "[" ++ label table.name ++ "]")
    :: (fieldsOf g table).map fieldBox ++ ["    end"]

/-- The line of an alias. -/
def aliasBox (node : Node) : String := "    " ++ chartId node.id ++ "([" ++ label node.name ++ "])"

/-- The line of a link; fields stand inside of their tables and need none. -/
def edge? (l : Link) : Option String :=
  let ends (line : String) : String :=
    "    " ++ chartId l.source ++ " " ++ line ++ " " ++ chartId l.target
  match l.kind with
  | .fieldTable => none
  | .aliasTable => some (ends "-.->")
  | .tableJoin | .fieldJoin =>
    some (ends ((if l.isAliasJoin then "-.-" else "---") ++ "|" ++
      label (l.condition?.getD "") ++ "|"))

/-- The lines of a flowchart. -/
def flowchartLines (g : Graph) : List String :=
  "flowchart LR" :: (realTables g).flatMap (tableBox g)
    ++ (g.tables.filter Node.isAlias).map aliasBox ++ g.links.filterMap edge?

/-- The flowchart of a graph. -/
def flowchart (g : Graph) : String := unlines (flowchartLines g)

end JoinGraph.Render
