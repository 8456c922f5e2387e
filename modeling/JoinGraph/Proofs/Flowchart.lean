import JoinGraph.Proofs.ChartIds
import JoinGraph.Proofs.GraphGroups
import JoinGraph.Proofs.Lines

/-!
# What a flowchart declares

A flowchart is read line by line: a line opens or closes the box of a table, declares a node, or
joins two nodes.  The reader is strict.  It knows an identifier by its characters and a label by
its quotes, so it relies on what the printer leaves out of both: an identifier has no brackets and
no blanks, a label no quotes and no line feeds.

## Main results

* `readLine?_tableOpening`, `readLine?_fieldBox`, `readLine?_aliasBox`, `readLine?_edge?` — each
  printed line is read as what it was printed for.
* `readChart?_flowchart` — so is a flowchart.
* `declarations_perm` — what it declares are the nodes of the graph.
* `flowchart_graph` — the flowchart of a statement declares its nodes and joins, each once.
-/

namespace JoinGraph.Render

/-! ## Reading a flowchart -/

/-- What a line of a flowchart says. -/
inductive ChartLine where
  | opens (id : String)
  | closes
  | box (id : String)
  | rounded (id : String)
  | edge (source target : String)
  deriving DecidableEq, Repr

/-- What stands behind a label in quotes. -/
def behindLabel? : List Char → Option (List Char)
  | '"' :: text => (Text.splitOnce? '"' text).map Prod.snd
  | _ => none

/-- What stands behind a line between two nodes, which may have a label. -/
def behindArrow? : List Char → Option (List Char)
  | '-' :: '.' :: '-' :: '>' :: ' ' :: rest => some rest
  | '-' :: stroke :: '-' :: '|' :: rest =>
    if stroke = '-' ∨ stroke = '.' then
      match behindLabel? rest with
      | some ('|' :: ' ' :: rest) => some rest
      | _ => none
    else none
  | _ => none

/-- A text that is an identifier. -/
def identifier? (text : List Char) : Option String :=
  if text ≠ [] ∧ text.all isIdPart = true then some (String.ofList text) else none

/-- An identifier with a label in brackets. -/
def labelled? (text : List Char) : Option String :=
  match text.dropWhile isIdPart with
  | '[' :: rest =>
      if behindLabel? rest = some [']'] then identifier? (text.takeWhile isIdPart) else none
  | _ => none

/-- What a line says, whatever its indentation. -/
def readLine? (line : String) : Option ChartLine :=
  let text := line.toList.dropWhile (· == ' ')
  let word := text.takeWhile isIdPart
  match text.dropWhile isIdPart with
  | [] => if word = "end".toList then some .closes else none
  | ' ' :: rest =>
    if word = "subgraph".toList then (labelled? rest).map .opens
    else do return .edge (← identifier? word) (← identifier? (← behindArrow? rest))
  | '(' :: '[' :: rest =>
      if behindLabel? rest = some [']', ')'] then (identifier? word).map .rounded else none
  | '[' :: _ => (labelled? text).map .box
  | _ => none

/-- What the lines of a flowchart say, if each can be read. -/
def readChart? (text : String) : Option (List ChartLine) :=
  if (Text.lines text).head? = some "flowchart LR" then (Text.lines text).tail.mapM readLine?
  else none

/-! ## Identifiers and labels in a line -/

variable {id : String}

/-- A word ends at the first character of another kind. -/
theorem span_word (word : List Char) (hword : ∀ c ∈ word, isIdPart c = true) {c : Char}
    (hc : isIdPart c = false) (rest : List Char) :
    (word ++ c :: rest).takeWhile isIdPart = word ∧
      (word ++ c :: rest).dropWhile isIdPart = c :: rest := by
  rw [List.takeWhile_append_of_pos hword, List.dropWhile_append_of_pos hword]
  simp [hc]

/-- An identifier starts with no blank. -/
theorem dropWhile_blanks (h : IsNodeId id) (blanks : List Char) (hblanks : ∀ c ∈ blanks, c = ' ')
    (rest : List Char) : (blanks ++ ((chartId id).toList ++ rest)).dropWhile (· == ' ') =
      (chartId id).toList ++ rest := by
  obtain ⟨hall, hmem⟩ := chartId_spec h
  obtain ⟨c, cs, hc⟩ := List.exists_cons_of_ne_nil (List.ne_nil_of_mem hmem)
  have hne : c ≠ ' ' := by
    rintro rfl
    exact absurd (hall ' ' (hc ▸ List.mem_cons_self)) (by decide)
  rw [List.dropWhile_append_of_pos (by simpa using hblanks), hc, List.cons_append,
    List.dropWhile_cons_of_neg (by simpa using hne)]

theorem identifier?_chartId (h : IsNodeId id) :
    identifier? (chartId id).toList = some (chartId id) := by
  obtain ⟨hall, hmem⟩ := chartId_spec h
  rw [identifier?, if_pos ⟨List.ne_nil_of_mem hmem, List.all_eq_true.2 hall⟩, String.ofList_toList]

/-- No identifier is a word of the language. -/
theorem chartId_ne_word (h : IsNodeId id) {word : List Char} (hword : '_' ∉ word) :
    (chartId id).toList ≠ word :=
  fun heq => hword (heq ▸ (chartId_spec h).2)

theorem not_mem_labelCharacter (c : Char) : '"' ∉ labelCharacter c ∧ '\n' ∉ labelCharacter c := by
  unfold labelCharacter
  split
  · decide
  · split
    · decide
    · next hquote hfeed => simp [Ne.symm hquote, Ne.symm hfeed]

theorem behindLabel?_label (text : String) (rest : List Char) :
    behindLabel? ((label text).toList ++ rest) = some rest := by
  have hquote : '"' ∉ text.toList.flatMap labelCharacter := by
    rw [List.mem_flatMap]
    rintro ⟨c, -, hc⟩
    exact (not_mem_labelCharacter c).1 hc
  have hlabel :
      (label text).toList ++ rest = '"' :: (text.toList.flatMap labelCharacter ++ '"' :: rest) := by
    simp [label]
  rw [hlabel, behindLabel?, Text.splitOnce?_append hquote, Option.map_some]

/-- A labelled identifier is read as such. -/
theorem labelled?_chartId (h : IsNodeId id) (text : String) :
    labelled? ((chartId id).toList ++ '[' :: ((label text).toList ++ [']'])) =
      some (chartId id) := by
  obtain ⟨htake, hdrop⟩ :=
    span_word _ (chartId_spec h).1 (c := '[') rfl ((label text).toList ++ [']'])
  simp only [labelled?, hdrop, htake, behindLabel?_label, if_true, identifier?_chartId h]

/-! ## Printed lines -/

theorem readLine?_end : readLine? "    end" = some .closes := by decide

theorem readLine?_tableOpening (h : IsNodeId id) (name : String) :
    readLine? ("    subgraph " ++ chartId id ++ "[" ++ label name ++ "]") =
      some (.opens (chartId id)) := by
  have hline :
      ("    subgraph " ++ chartId id ++ "[" ++ label name ++ "]").toList.dropWhile (· == ' ') =
        "subgraph".toList ++
          ' ' :: ((chartId id).toList ++ '[' :: ((label name).toList ++ [']'])) := by
    simp
  obtain ⟨htake, hdrop⟩ := span_word "subgraph".toList (List.all_eq_true.1 rfl) (c := ' ') rfl
    ((chartId id).toList ++ '[' :: ((label name).toList ++ [']']))
  simp only [readLine?, hline, htake, hdrop, if_true, labelled?_chartId h, Option.map_some]

theorem readLine?_fieldBox {f : Node} (h : IsNodeId f.id) :
    readLine? (fieldBox f) = some (.box (chartId f.id)) := by
  have hline : (fieldBox f).toList =
      "        ".toList ++ ((chartId f.id).toList ++ '[' :: ((label f.name).toList ++ [']'])) := by
    simp [fieldBox]
  obtain ⟨-, hdrop⟩ :=
    span_word _ (chartId_spec h).1 (c := '[') rfl ((label f.name).toList ++ [']'])
  simp only [readLine?, hline, dropWhile_blanks h "        ".toList (by simp), hdrop,
    labelled?_chartId h, Option.map_some]

theorem readLine?_aliasBox {n : Node} (h : IsNodeId n.id) :
    readLine? (aliasBox n) = some (.rounded (chartId n.id)) := by
  have hline : (aliasBox n).toList =
      "    ".toList ++
        ((chartId n.id).toList ++ '(' :: '[' :: ((label n.name).toList ++ [']', ')'])) := by
    simp [aliasBox]
  obtain ⟨htake, hdrop⟩ :=
    span_word _ (chartId_spec h).1 (c := '(') rfl ('[' :: ((label n.name).toList ++ [']', ')']))
  simp only [readLine?, hline, dropWhile_blanks h "    ".toList (by simp), hdrop, htake,
    behindLabel?_label, if_true, identifier?_chartId h, Option.map_some]

/-- A label between the strokes of a line. -/
theorem behindArrow?_labelled (aliased : Bool) (text : String) (rest : List Char) :
    behindArrow? (((if aliased then "-.-" else "---") ++ "|" ++ label text ++ "|").toList ++
      ' ' :: rest) =
      some rest := by
  have hlabel := behindLabel?_label text ('|' :: ' ' :: rest)
  cases aliased <;> simp [behindArrow?, hlabel]

/-- The line between two nodes, whatever stands between them. -/
theorem readLine?_ends {source target : String} (hs : IsNodeId source) (ht : IsNodeId target)
    {arrow : String} (harrow : ∀ rest, behindArrow? (arrow.toList ++ ' ' :: rest) = some rest) :
    readLine? ("    " ++ chartId source ++ " " ++ arrow ++ " " ++ chartId target) =
      some (.edge (chartId source) (chartId target)) := by
  have hline : ("    " ++ chartId source ++ " " ++ arrow ++ " " ++ chartId target).toList =
      "    ".toList ++
        ((chartId source).toList ++ ' ' :: (arrow.toList ++ ' ' :: (chartId target).toList)) := by
    simp
  obtain ⟨htake, hdrop⟩ :=
    span_word _ (chartId_spec hs).1 (c := ' ') rfl (arrow.toList ++ ' ' :: (chartId target).toList)
  have hword : (chartId source).toList ≠ "subgraph".toList := chartId_ne_word hs (by decide)
  simp only [readLine?, hline, dropWhile_blanks hs "    ".toList (by simp), hdrop, htake, hword,
    if_false, harrow, identifier?_chartId hs, identifier?_chartId ht, Option.bind_eq_bind,
      Option.bind_some,
    Option.pure_def]

/-- The links that are printed as lines of their own. -/
def drawnLinks (g : Graph) : List Link := g.links.filter (·.kind != .fieldTable)

theorem edge?_eq_none_iff (l : Link) : edge? l = none ↔ l.kind = .fieldTable := by
  unfold edge?
  split <;> simp [*]

theorem readLine?_edge? {l : Link} (hs : IsNodeId l.source) (ht : IsNodeId l.target) {line : String}
    (h : edge? l = some line) :
    readLine? line = some (.edge (chartId l.source) (chartId l.target)) := by
  have hjoin := behindArrow?_labelled l.isAliasJoin (l.condition?.getD "")
  unfold edge? at h
  dsimp only at h
  split at h
  · cases h
  · exact Option.some.inj h ▸ readLine?_ends hs ht fun rest => rfl
  · exact Option.some.inj h ▸ readLine?_ends hs ht hjoin
  · exact Option.some.inj h ▸ readLine?_ends hs ht hjoin

/-! ## Line feeds -/

theorem feed_not_mem_chartId (h : IsNodeId id) : '\n' ∉ (chartId id).toList :=
  fun hmem => absurd ((chartId_spec h).1 _ hmem) (by decide)

theorem feed_not_mem_label (text : String) : '\n' ∉ (label text).toList := by
  have hinner : '\n' ∉ text.toList.flatMap labelCharacter := by
    rw [List.mem_flatMap]
    rintro ⟨c, -, hc⟩
    exact (not_mem_labelCharacter c).2 hc
  simpa [label] using hinner

theorem feed_not_mem_edge? {l : Link} (hs : IsNodeId l.source) (ht : IsNodeId l.target)
    {line : String} (h : edge? l = some line) : '\n' ∉ line.toList := by
  unfold edge? at h
  dsimp only at h
  split at h
  · cases h
  · obtain rfl := Option.some.inj h
    simp [feed_not_mem_chartId hs, feed_not_mem_chartId ht]
  all_goals
    obtain rfl := Option.some.inj h
    cases l.isAliasJoin <;> simp [feed_not_mem_chartId hs, feed_not_mem_chartId ht,
      feed_not_mem_label]

/-! ## The whole flowchart -/

/-- What the lines of a table are printed for. -/
def tableItems (g : Graph) (table : Node) : List ChartLine :=
  .opens (chartId table.id) :: (fieldsOf g table).map (fun f => .box (chartId f.id)) ++ [.closes]

/-- What the lines of a graph are printed for. -/
def chartItems (g : Graph) : List ChartLine :=
  (realTables g).flatMap (tableItems g)
    ++ (g.tables.filter Node.isAlias).map (fun n => .rounded (chartId n.id))
    ++ (drawnLinks g).map fun l => .edge (chartId l.source) (chartId l.target)

/-- The nodes of a graph, and the ends of its links, have identifiers of nodes. -/
structure Identified (g : Graph) : Prop where
  nodes : ∀ n ∈ g.nodes, IsNodeId n.id
  links : ∀ l ∈ g.links, IsNodeId l.source ∧ IsNodeId l.target

variable {g : Graph}

theorem readLine?_tableBox (hg : Identified g) {table : Node} (h : table ∈ realTables g) :
    (tableBox g table).map readLine? = (tableItems g table).map some := by
  have hfields : (fieldsOf g table).map (fun f => readLine? (fieldBox f)) =
      (fieldsOf g table).map fun f => some (.box (chartId f.id)) :=
    List.map_congr_left fun f hf =>
      readLine?_fieldBox (hg.nodes f (Graph.mem_nodes_of_mem_fieldsOf hf))
  have hopening :=
    readLine?_tableOpening (hg.nodes table (Graph.mem_nodes_of_mem_tables h)) table.name
  simp only [tableBox, tableItems, List.cons_append, List.map_cons, List.map_append, List.map_map,
    Function.comp_def, hopening, hfields, readLine?_end, List.map_nil]

theorem readLine?_aliases (hg : Identified g) :
    ((g.tables.filter Node.isAlias).map aliasBox).map readLine? =
      (g.tables.filter Node.isAlias).map fun n => some (.rounded (chartId n.id)) := by
  rw [List.map_map, Function.comp_def]
  exact List.map_congr_left fun n hn =>
    readLine?_aliasBox (hg.nodes n (Graph.mem_nodes_of_mem_tables hn))

theorem readLine?_edges (hg : Identified g) :
    (g.links.filterMap edge?).map readLine? =
      (drawnLinks g).map fun l => some (.edge (chartId l.source) (chartId l.target)) := by
  have hlinks := hg.links
  unfold drawnLinks
  generalize g.links = links at hlinks
  induction links with
  | nil => rfl
  | cons l links ih =>
      obtain ⟨hs, ht⟩ := hlinks l List.mem_cons_self
      have ih := ih fun l' hl' => hlinks l' (List.mem_cons_of_mem _ hl')
      cases hedge : edge? l with
      | none =>
          have hkind := (edge?_eq_none_iff l).1 hedge
          rw [List.filterMap_cons_none hedge, List.filter_cons_of_neg (by simp [hkind]), ih]
      | some line =>
          have hkind : l.kind ≠ .fieldTable := fun hkind => by
            simp [(edge?_eq_none_iff l).2 hkind] at hedge
          rw [List.filterMap_cons_some hedge, List.filter_cons_of_pos (by simpa using hkind),
            List.map_cons, List.map_cons, readLine?_edge? hs ht hedge, ih]

private theorem mapM_of_map {α β : Type} {f : α → Option β} {list : List α} {read : List β}
    (h : list.map f = read.map some) : list.mapM f = some read := by
  induction list generalizing read with
  | nil =>
      obtain rfl : read = [] := by simpa using h
      rfl
  | cons a list ih =>
      cases read with
      | nil => simp at h
      | cons b read =>
          obtain ⟨hb, hrest⟩ := List.cons.inj h
          simp [List.mapM_cons, hb, ih hrest]

theorem feed_not_mem_flowchartLines (hg : Identified g) :
    ∀ line ∈ flowchartLines g, '\n' ∉ line.toList := by
  have hnode : ∀ n ∈ g.nodes, '\n' ∉ (chartId n.id).toList :=
    fun n hn => feed_not_mem_chartId (hg.nodes n hn)
  intro line hline
  simp only [flowchartLines, List.cons_append, List.mem_cons, List.mem_append,
    List.mem_flatMap, List.mem_map,
    List.mem_filterMap, tableBox, List.not_mem_nil, or_false] at hline
  rcases hline with
    rfl | (⟨table, htable, rfl | ⟨f, hf, rfl⟩ | rfl⟩ | ⟨n, hn, rfl⟩) | ⟨l, hl, hedge⟩
  · decide
  · simp [hnode table (Graph.mem_nodes_of_mem_tables htable), feed_not_mem_label]
  · simp [fieldBox, hnode f (Graph.mem_nodes_of_mem_fieldsOf hf), feed_not_mem_label]
  · decide
  · simp [aliasBox, hnode n (Graph.mem_nodes_of_mem_tables hn), feed_not_mem_label]
  · exact feed_not_mem_edge? (hg.links l hl).1 (hg.links l hl).2 hedge

theorem lines_flowchart (hg : Identified g) : Text.lines (flowchart g) = flowchartLines g :=
  Text.lines_unlines (feed_not_mem_flowchartLines hg)

/-- A flowchart is read as what it was printed for. -/
theorem readChart?_flowchart (hg : Identified g) :
    readChart? (flowchart g) = some (chartItems g) := by
  have htables : ((realTables g).flatMap (tableBox g)).map readLine? =
      ((realTables g).flatMap (tableItems g)).map some := by
    rw [List.map_flatMap, List.map_flatMap]
    exact List.flatMap_congr fun table htable => readLine?_tableBox hg htable
  have hhead : (flowchartLines g).head? = some "flowchart LR" := rfl
  rw [readChart?, lines_flowchart hg, if_pos hhead]
  refine mapM_of_map ?_
  simp only [flowchartLines, chartItems, List.cons_append, List.tail_cons, List.map_append, htables,
    readLine?_aliases hg, readLine?_edges hg, List.map_map, Function.comp_def]

/-! ## Declarations -/

/-- The shapes of nodes. -/
inductive ChartShape where
  | subgraph | box | rounded
  deriving DecidableEq, Repr

/-- An identifier that a line declares, its shape, and the subgraph around the line. -/
structure Declaration where
  shape : ChartShape
  within? : Option String
  id : String
  deriving DecidableEq, Repr

/-- The identifiers that lines declare, if a subgraph is open. -/
def declarations : Option String → List ChartLine → List Declaration
  | _, [] => []
  | within?, .opens id :: rest => ⟨.subgraph, within?, id⟩ :: declarations (some id) rest
  | _, .closes :: rest => declarations none rest
  | within?, .box id :: rest => ⟨.box, within?, id⟩ :: declarations within? rest
  | within?, .rounded id :: rest => ⟨.rounded, within?, id⟩ :: declarations within? rest
  | within?, .edge _ _ :: rest => declarations within? rest

/-- The ends of a line between two nodes. -/
def ChartLine.ends? : ChartLine → Option (String × String)
  | .edge source target => some (source, target)
  | _ => none

/-- How a node is declared: a table is a subgraph, a field a box inside of that of its table, and
an alias is rounded. -/
def declarationOf (n : Node) : Declaration :=
  match n.kind with
  | .field => ⟨.box, n.table?.map fun table => chartId (tableId table), chartId n.id⟩
  | .table => ⟨if n.isAlias then .rounded else .subgraph, none, chartId n.id⟩

/-- The fields of a table stand inside of its subgraph, which the end closes. -/
private theorem declarations_boxes (box : String) (fields : List Node) (rest : List ChartLine) :
    declarations (some box) (fields.map (fun f => .box (chartId f.id)) ++ .closes :: rest) =
      fields.map (fun f => ⟨.box, some box, chartId f.id⟩) ++ declarations none rest := by
  induction fields with
  | nil => rfl
  | cons f fields ih => simp only [List.map_cons, List.cons_append, declarations, ih]

private theorem declarations_tables (tables : List Node) (rest : List ChartLine) :
    declarations none (tables.flatMap (tableItems g) ++ rest) =
      (tables.flatMap fun t => ⟨.subgraph, none, chartId t.id⟩ ::
        (fieldsOf g t).map fun f => ⟨.box, some (chartId t.id), chartId f.id⟩) ++
          declarations none rest := by
  induction tables with
  | nil => rfl
  | cons t tables ih =>
      simp only [List.flatMap_cons, tableItems, List.cons_append, List.append_assoc, declarations,
        List.nil_append, declarations_boxes, ih]

private theorem declarations_rest (aliases : List Node) (links : List Link) :
    declarations none (aliases.map (fun n => .rounded (chartId n.id)) ++
        links.map fun l => .edge (chartId l.source) (chartId l.target)) =
      aliases.map fun n => ⟨.rounded, none, chartId n.id⟩ := by
  induction aliases with
  | nil =>
      induction links with
      | nil => rfl
      | cons l links ih => exact ih
  | cons n aliases ih => simp only [List.map_cons, List.cons_append, declarations, ih]

variable {tables : List String} {bindings : List (String × String)}

/-- What is declared, table by table. -/
theorem declarations_chartItems (h : g.Grouped tables bindings) : declarations none (chartItems g) =
    ((realTables g).flatMap fun t => declarationOf t :: (fieldsOf g t).map declarationOf) ++
      (g.tables.filter Node.isAlias).map declarationOf := by
  have htable : ∀ t ∈ realTables g, (⟨.subgraph, none, chartId t.id⟩ :: (fieldsOf g t).map fun f =>
      ⟨.box, some (chartId t.id), chartId f.id⟩ : List Declaration) =
        declarationOf t :: (fieldsOf g t).map declarationOf := by
    intro t ht
    rw [h.tables_eq] at ht
    obtain ⟨name, -, rfl⟩ := List.mem_map.1 ht
    refine congrArg₂ List.cons rfl (List.map_congr_left fun f hf => ?_)
    obtain ⟨hfield, howner⟩ := List.mem_filter.1 hf
    have hkind : f.kind = .field := by simpa using (List.mem_filter.1 hfield).2
    have howner : f.table? = some name := by simpa [Node.ofTable] using howner
    simp [declarationOf, hkind, howner, Node.ofTable]
  have halias : ∀ n ∈ g.tables.filter Node.isAlias,
      (⟨.rounded, none, chartId n.id⟩ : Declaration) = declarationOf n := by
    intro n hn
    rw [h.aliases_eq] at hn
    obtain ⟨b, -, rfl⟩ := List.mem_map.1 hn
    rfl
  rw [chartItems, List.append_assoc, declarations_tables, declarations_rest,
    List.flatMap_congr htable, List.map_congr_left halias]

/-- Each node is declared once. -/
theorem declarations_perm (h : g.Grouped tables bindings) :
    (declarations none (chartItems g)).Perm (g.nodes.map declarationOf) := by
  have hgroups :
      ((realTables g).flatMap fun t => declarationOf t :: (fieldsOf g t).map declarationOf).Perm
        ((realTables g).map declarationOf ++ g.fields.map declarationOf) := by
    refine (List.map_append_flatMap_perm _ _ _).symm.trans (List.Perm.append_left _ ?_)
    rw [← List.map_flatMap]
    exact h.fields_perm.map declarationOf
  have hnodes := g.nodes_perm.map declarationOf
  rw [List.map_append, List.map_append] at hnodes
  rw [declarations_chartItems h]
  refine ((hgroups.append_right _).trans ?_).trans hnodes
  rw [List.append_assoc, List.append_assoc]
  exact List.perm_append_comm.append_left _

theorem ends_chartItems (g : Graph) : (chartItems g).filterMap ChartLine.ends? =
    (drawnLinks g).map fun l => (chartId l.source, chartId l.target) := by
  have htables : ((realTables g).flatMap (tableItems g)).filterMap ChartLine.ends? = [] := by
    refine List.filterMap_eq_nil_iff.2 fun line hline => ?_
    obtain ⟨t, -, hline⟩ := List.mem_flatMap.1 hline
    simp only [tableItems, List.cons_append, List.mem_cons, List.mem_append, List.mem_map,
      List.not_mem_nil, or_false] at hline
    rcases hline with rfl | ⟨f, -, rfl⟩ | rfl <;> rfl
  have haliases :
      ((g.tables.filter Node.isAlias).map fun n => ChartLine.rounded (chartId n.id)).filterMap
        ChartLine.ends? = [] := by
    refine List.filterMap_eq_nil_iff.2 fun line hline => ?_
    obtain ⟨n, -, rfl⟩ := List.mem_map.1 hline
    rfl
  rw [chartItems, List.filterMap_append, List.filterMap_append, htables, haliases,
    List.filterMap_map]
  simp [Function.comp_def, ChartLine.ends?]

/-- One line for the header, two for a table, and one for each other node and each link. -/
theorem length_flowchartLines (h : g.Grouped tables bindings) (hg : Identified g) :
    (flowchartLines g).length =
    1 + 2 * (realTables g).length + g.fields.length + (g.tables.filter Node.isAlias).length +
      (drawnLinks g).length := by
  have hedges : (g.links.filterMap edge?).length = (drawnLinks g).length := by
    simpa using congrArg List.length (readLine?_edges hg)
  have hboxes : ((realTables g).flatMap (tableBox g)).length =
      2 * (realTables g).length + ((realTables g).flatMap (fieldsOf g)).length := by
    induction realTables g with
    | nil => rfl
    | cons t tables ih =>
        simp only [List.flatMap_cons, List.length_append, ih, tableBox, List.length_cons,
          List.length_map, List.length_nil]
        omega
  simp only [flowchartLines, List.cons_append, List.length_cons, List.length_append,
    List.length_map, hboxes, hedges, h.fields_perm.length_eq]
  omega

/-- A well-built graph has identifiers of nodes at the ends of its links, if its nodes have them. -/
theorem identified_of_wellBuilt (h : g.Grouped tables bindings) (hbuilt : g.WellBuilt) :
    Identified g where
  nodes := fun _ => h.isNodeId
  links := by
    intro l hl
    obtain ⟨a, ha, b, hb, hsource, htarget, -⟩ := hbuilt.links_fit l hl
    exact ⟨hsource ▸ h.isNodeId ha, htarget ▸ h.isNodeId hb⟩

/-- The identifiers in a flowchart tell the nodes apart. -/
theorem nodup_chartIds (hg : Identified g) (hbuilt : g.WellBuilt) :
    (g.nodes.map fun n => chartId n.id).Nodup := by
  have hinj : ∀ a ∈ g.nodes.map Node.id, ∀ b ∈ g.nodes.map Node.id,
      chartId a = chartId b → a = b := by
    intro a ha b hb heq
    obtain ⟨n, hn, rfl⟩ := List.mem_map.1 ha
    obtain ⟨m, hm, rfl⟩ := List.mem_map.1 hb
    exact eq_of_chartId_eq (hg.nodes n hn) (hg.nodes m hm) heq
  simpa only [List.map_map, Function.comp_def] using hbuilt.ids_nodup.map_on hinj

/-- The subgraph around a field is that of a table. -/
theorem exists_table_of_within (h : g.Grouped tables bindings) {n : Node} (hn : n ∈ g.nodes)
    {box : String} (hbox : (declarationOf n).within? = some box) :
    ∃ t ∈ g.nodes, declarationOf t = ⟨.subgraph, none, box⟩ := by
  cases hkind : n.kind with
  | table => simp [declarationOf, hkind] at hbox
  | field =>
      obtain ⟨⟨t, ht, htable⟩, -⟩ := h.owned n (List.mem_filter.2 ⟨hn, by simp [hkind]⟩)
      have hmem : Node.ofTable t ∈ realTables g := h.tables_eq ▸ List.mem_map_of_mem ht
      obtain rfl : chartId (tableId t) = box := by simpa [declarationOf, hkind, htable] using hbox
      exact ⟨_, Graph.mem_nodes_of_mem_tables hmem, rfl⟩

/-- The flowchart of the graph of a statement has a line for its header, two for each table, and
one for each field, each alias and each link that is not one of a field.  Each line can be read,
whatever the names and the conditions are.  What the lines declare are the nodes, each once and
with an identifier of its own: tables and aliases outside of all subgraphs, and a field in the
subgraph of its table, which is declared.  The lines between nodes are the links, in order, and
both ends are declared. -/
theorem flowchart_graph (s : Statement) (o : Options) :
    let g := s.graph o
    let links := g.links.filter (·.kind != .fieldTable)
    (Text.lines (flowchart g)).length =
        1 + 2 * (realTables g).length + g.fields.length + (g.tables.filter Node.isAlias).length +
          links.length ∧
      ∃ chart, readChart? (flowchart g) = some chart ∧
        let declared := declarations none chart
        declared.Perm (g.nodes.map declarationOf) ∧ (declared.map Declaration.id).Nodup ∧
          (∀ d ∈ declared, ∀ box, d.within? = some box → ⟨.subgraph, none, box⟩ ∈ declared) ∧
          (chart.filterMap ChartLine.ends?) =
            links.map (fun l => (chartId l.source, chartId l.target)) ∧
          ∀ l ∈ links, chartId l.source ∈ declared.map Declaration.id ∧
            chartId l.target ∈ declared.map Declaration.id := by
  intro g links
  obtain ⟨tables, bindings, h⟩ := Graph.exists_grouped_graph s o
  have hbuilt := wellBuilt_graph s o
  have hg := identified_of_wellBuilt h hbuilt
  have hperm := declarations_perm h
  have hids : ((declarations none (chartItems g)).map Declaration.id).Perm
      (g.nodes.map fun n => chartId n.id) := by
    have hid : ∀ n : Node, (declarationOf n).id = chartId n.id := fun n => by
      cases hkind : n.kind <;> simp [declarationOf, hkind]
    simpa only [List.map_map, Function.comp_def, hid] using hperm.map Declaration.id
  refine ⟨by rw [lines_flowchart hg]; exact length_flowchartLines h hg, chartItems g,
    readChart?_flowchart hg,
    hperm, hids.nodup_iff.2 (nodup_chartIds hg hbuilt), fun d hd box hbox => ?_, ends_chartItems g,
      fun l hl => ?_⟩
  · obtain ⟨n, hn, rfl⟩ := List.mem_map.1 (hperm.mem_iff.1 hd)
    obtain ⟨t, ht, htable⟩ := exists_table_of_within h hn hbox
    exact hperm.mem_iff.2 (htable ▸ List.mem_map_of_mem ht)
  · obtain ⟨a, ha, b, hb, hsource, htarget, -⟩ := hbuilt.links_fit l (List.mem_filter.1 hl).1
    rw [hids.mem_iff, hids.mem_iff, ← hsource, ← htarget]
    exact ⟨List.mem_map.2 ⟨a, ha, rfl⟩, List.mem_map.2 ⟨b, hb, rfl⟩⟩

end JoinGraph.Render
