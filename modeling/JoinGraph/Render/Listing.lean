import JoinGraph.Result

/-!
# Listings

A result as lines of text: a summary, the tables with their fields, and the joins.  For a
terminal, some pieces of the text are set off by control sequences.
-/

namespace JoinGraph.Render

/-! ## Colors -/

/-- How a piece of text is set off. -/
inductive Style where
  | bold
  | dimmed
  | cyan
  | yellow
  | green
  deriving DecidableEq, Repr

/-- The control sequence in front of a piece. -/
def Style.start : Style → String
  | bold => "\x1b[1m"
  | dimmed => "\x1b[2m"
  | cyan => "\x1b[36m"
  | yellow => "\x1b[33m"
  | green => "\x1b[32m"

/-- The control sequence behind a piece: back to a plain text, or to the usual color. -/
def Style.stop : Style → String
  | bold | dimmed => "\x1b[0m"
  | cyan | yellow | green => "\x1b[39m"

/-- A piece of text, set off if colors are wanted. -/
def Style.paint (style : Style) (isColored : Bool) (text : String) : String :=
  if isColored then style.start ++ text ++ style.stop else text

/-! ## The graph -/

/-- The tables of a graph that are no aliases. -/
def realTables (g : Graph) : List Node := g.tables.filter fun n => !n.isAlias

/-- The fields of a table. -/
def fieldsOf (g : Graph) (table : Node) : List Node :=
  g.fields.filter fun f => f.table? == some table.ownName

/-- The joins of tables, those between aliases left out. -/
def realJoins (g : Graph) : List Link := (g.linksOf .tableJoin).filter fun l => !l.isAliasJoin

/-- A text with a mark removed from its front as often as it stands there. -/
def withoutMark (mark : List Char) (h : mark ≠ []) (text : List Char) : List Char :=
  if mark.isPrefixOf text then withoutMark mark h (text.drop mark.length) else text
termination_by text.length
decreasing_by
  have hm : 0 < mark.length := List.length_pos_iff.2 h
  have ht := (List.isPrefixOf_iff_prefix.1 ‹mark.isPrefixOf text = true›).length_le
  simp only [List.length_drop]
  omega

/-- The name in the identifier of a table. -/
def nameInId (id : String) : String :=
  String.ofList (withoutMark ['t', 'a', 'b', 'l', 'e', ':'] (by simp) id.toList)

/-- A number in base ten. -/
def decimal (n : Nat) : String := String.ofList (Nat.toDigits 10 n)

/-- The counts of a result. -/
def summaryLine (r : Result) : String :=
  "Summary: " ++ decimal (realTables r.graph).length ++ " tables | "
    ++ decimal r.graph.fields.length ++ " fields | " ++ decimal (realJoins r.graph).length
    ++ " joins | parser: " ++ r.parser.name

/-- What sets a field apart. -/
def fieldMarks (isColored : Bool) (f : Node) : String :=
  let marks := (if f.isResult then ["result"] else []) ++ (if f.isJoinField then ["join"] else [])
  if marks.isEmpty then ""
  else Style.green.paint isColored (" [" ++ ", ".intercalate marks ++ "]")

/-- The aliases of a table, in order. -/
def aliasesOf (g : Graph) (table : Node) : List String :=
  (g.aliases.entries.filter fun e => e.2 == table.ownName).map (·.1)

/-- The lines of a table and its fields. -/
def tableLines (isColored : Bool) (g : Graph) (table : Node) : List String :=
  let aliases := aliasesOf g table
  let heading := "  " ++ table.name
    ++ if aliases.isEmpty then "" else " (as " ++ ", ".intercalate aliases ++ ")"
  heading :: (fieldsOf g table).map fun f => "    " ++ f.name ++ fieldMarks isColored f

/-- The line of a join. -/
def joinLine (isColored : Bool) (l : Link) : String :=
  "  " ++ nameInId l.source ++ " " ++ Style.green.paint isColored "↔" ++ " " ++ nameInId l.target
    ++ "  ON " ++ l.condition?.getD ""
    ++ if l.confidence? == some .inferred then " (inferred)" else ""

/-- The lines of the joins, if there are any. -/
def joinLines (isColored : Bool) (g : Graph) : List String :=
  let joins := realJoins g
  if joins.isEmpty then []
  else Style.bold.paint isColored "Joins:" :: joins.map (joinLine isColored) ++ [""]

/-- The lines of a listing. -/
def listingLines (isColored : Bool) (r : Result) : List String :=
  [Style.bold.paint isColored "JoinScope Graph",
      Style.dimmed.paint isColored (String.ofList (List.replicate 50 '═')), "",
      Style.cyan.paint isColored (summaryLine r)]
    ++ (if r.graph.isDiagnostic then
          [Style.yellow.paint isColored "Graph construction failed; showing diagnostic graph"]
        else [])
    ++ ["", Style.bold.paint isColored "Tables:"]
    ++ (realTables r.graph).flatMap (tableLines isColored r.graph) ++ [""]
    ++ joinLines isColored r.graph

/-- Lines, each with its end. -/
def unlines (lines : List String) : String := String.join (lines.map (· ++ "\n"))

/-- The listing of a result. -/
def listing (isColored : Bool) (r : Result) : String := unlines (listingLines isColored r)

end JoinGraph.Render
