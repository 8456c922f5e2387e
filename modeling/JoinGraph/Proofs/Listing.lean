import JoinGraph.Proofs.GraphGroups
import JoinGraph.Proofs.Lines

/-!
# What a listing shows

A listing has a section of tables, with their aliases and fields, and a section of joins.  Both
are found by their headings, and end at an empty line.  If no name has a line feed, the tables and
the fields are listed once each, and the summary counts the entries.  All of this holds with
colors and without.

The tables of a join are taken from identifiers, with the mark of tables removed from the front as
often as it stands there.  So the name of a table is shown without marks of its own.

## Main results

* `withoutMark_spec` — what is left of a name without its marks.
* `lines_listing`, `sectionOf_tables`, `sectionOf_joins` — the lines of a listing and of its
  sections.
* `listing_graph` — the listing of the graph of a statement shows the tables, fields and joins of
  the graph.
-/

namespace JoinGraph.Render

/-! ## Names without marks -/

/-- What is left of a text without its marks: it starts with no more of them. -/
theorem withoutMark_spec {mark : List Char} (h : mark ≠ []) (text : List Char) :
    (∃ n, text = (List.replicate n mark).flatten ++ withoutMark mark h text) ∧
      ¬ mark <+: withoutMark mark h text := by
  fun_induction withoutMark mark h text with
  | case1 text hmark ih =>
      obtain ⟨⟨n, hn⟩, hbare⟩ := ih
      obtain ⟨rest, rfl⟩ := List.isPrefixOf_iff_prefix.1 hmark
      refine ⟨⟨n + 1, ?_⟩, hbare⟩
      rw [List.drop_left] at hn ⊢
      rw [List.replicate_succ, List.flatten_cons, List.append_assoc, ← hn]
  | case2 text hmark =>
      exact ⟨⟨0, rfl⟩, fun hprefix => hmark (List.isPrefixOf_iff_prefix.2 hprefix)⟩

theorem withoutMark_append {mark : List Char} (h : mark ≠ []) (text : List Char) :
    withoutMark mark h (mark ++ text) = withoutMark mark h text := by
  rw [withoutMark, if_pos (List.isPrefixOf_iff_prefix.2 (List.prefix_append mark text)),
    List.drop_left]

theorem withoutMark_of_bare {mark : List Char} (h : mark ≠ []) {text : List Char}
    (hbare : ¬ mark <+: text) : withoutMark mark h text = text := by
  rw [withoutMark, if_neg fun hprefix => hbare (List.isPrefixOf_iff_prefix.1 hprefix)]

/-- The mark in front of the identifier of a table. -/
def tableMark : List Char := ['t', 'a', 'b', 'l', 'e', ':']

/-- The text is the name without the marks in front of it. -/
structure ShownAs (name shown : String) : Prop where
  marks : ∃ n, name.toList = (List.replicate n tableMark).flatten ++ shown.toList
  bare : ¬ tableMark <+: shown.toList

/-- The mark of the identifier is removed with those of the name. -/
theorem toList_nameInId (name : String) :
    (nameInId (tableId name)).toList = withoutMark tableMark (by decide) name.toList := by
  have hid : (tableId name).toList = tableMark ++ name.toList := by simp [tableId, tableMark]
  rw [nameInId, String.toList_ofList, hid]
  exact withoutMark_append _ _

theorem shownAs_nameInId (name : String) : ShownAs name (nameInId (tableId name)) := by
  obtain ⟨hmarks, hbare⟩ := withoutMark_spec (show tableMark ≠ [] by decide) name.toList
  rw [← toList_nameInId] at hmarks hbare
  exact ⟨hmarks, hbare⟩

/-- The whole name is shown exactly if it does not start with the mark. -/
theorem ShownAs.eq_iff {name shown : String} (h : ShownAs name shown) :
    shown = name ↔ ¬ tableMark <+: name.toList := by
  constructor
  · rintro rfl
    exact h.bare
  · intro hbare
    obtain ⟨n, hn⟩ := h.marks
    cases n with
    | zero => exact (String.ext hn).symm
    | succ n =>
        rw [List.replicate_succ, List.flatten_cons, List.append_assoc] at hn
        exact absurd (hn ▸ List.prefix_append _ _) hbare

/-! ## Sections -/

/-- The lines from behind a heading up to the next empty line. -/
def sectionOf (heading : String) (lines : List String) : List String :=
  ((lines.dropWhile (· ≠ heading)).drop 1).takeWhile (· ≠ "")

private theorem forall_ne {a : String} {list : List String} (h : a ∉ list) :
    ∀ line ∈ list, decide (line ≠ a) = true := by
  intro line hline
  rw [decide_eq_true_eq]
  rintro rfl
  exact h hline

theorem sectionOf_append {heading : String} {front body : List String} (hfront : heading ∉ front)
    (hbody : "" ∉ body) (rest : List String) :
    sectionOf heading (front ++ heading :: (body ++ "" :: rest)) = body := by
  rw [sectionOf, List.dropWhile_append_of_pos (forall_ne hfront),
    List.dropWhile_cons_of_neg (by simp),
    List.drop_one, List.tail_cons, List.takeWhile_append_of_pos (forall_ne hbody),
    List.takeWhile_cons_of_neg (by simp), List.append_nil]

theorem sectionOf_of_not_mem {heading : String} {lines : List String} (h : heading ∉ lines) :
    sectionOf heading lines = [] := by
  rw [sectionOf, List.dropWhile_eq_nil_iff.2 (forall_ne h)]
  rfl

/-- The headings of the sections. -/
def headings (isColored : Bool) : List String :=
  [Style.bold.paint isColored "Tables:", Style.bold.paint isColored "Joins:"]

/-- The lines in front of the section of tables. -/
def listingFront (isColored : Bool) (r : Result) : List String :=
  [Style.bold.paint isColored "JoinScope Graph",
      Style.dimmed.paint isColored (String.ofList (List.replicate 50 '═')), "",
      Style.cyan.paint isColored (summaryLine r)]
    ++ (if r.graph.isDiagnostic then
          [Style.yellow.paint isColored "Graph construction failed; showing diagnostic graph"]
        else [])
    ++ [""]

theorem listingLines_eq (isColored : Bool) (r : Result) : listingLines isColored r =
    listingFront isColored r ++ Style.bold.paint isColored "Tables:" ::
      ((realTables r.graph).flatMap (tableLines isColored r.graph) ++
        "" :: joinLines isColored r.graph) := by
  simp [listingLines, listingFront]

/-- A line of a section is indented. -/
def IsIndented (line : String) : Prop := ∃ rest, line.toList = ' ' :: ' ' :: rest

theorem IsIndented.ne {line : String} (h : IsIndented line) :
    line ≠ "" ∧ ∀ isColored, line ∉ headings isColored := by
  obtain ⟨rest, hline⟩ := h
  constructor
  · rintro rfl
    simp at hline
  · intro isColored hmem
    have hfirst : ∀ heading ∈ headings isColored, heading.toList.head? ≠ some ' ' := by
      cases isColored <;> decide
    exact hfirst line hmem (congrArg List.head? hline)

theorem isIndented_tableLines {isColored : Bool} {g : Graph} {line : String}
    (h : line ∈ (realTables g).flatMap (tableLines isColored g)) : IsIndented line := by
  obtain ⟨t, -, hline⟩ := List.mem_flatMap.1 h
  rcases List.mem_cons.1 hline with rfl | hline
  · simp [IsIndented]
  · obtain ⟨f, -, rfl⟩ := List.mem_map.1 hline
    simp [IsIndented]

theorem isIndented_joinLine (isColored : Bool) (l : Link) : IsIndented (joinLine isColored l) := by
  simp [IsIndented, joinLine]

/-- The lines in front of the tables that do not depend on the graph. -/
def fixedLines (isColored : Bool) : List String :=
  [Style.bold.paint isColored "JoinScope Graph",
    Style.dimmed.paint isColored (String.ofList (List.replicate 50 '═')), "",
    Style.yellow.paint isColored "Graph construction failed; showing diagnostic graph"]

theorem eq_or_mem_of_mem_listingFront {isColored : Bool} {r : Result} {line : String}
    (h : line ∈ listingFront isColored r) :
    line = Style.cyan.paint isColored (summaryLine r) ∨ line ∈ fixedLines isColored := by
  simp only [listingFront, List.mem_append, List.mem_cons, List.not_mem_nil, or_false] at h
  simp only [fixedLines, List.mem_cons, List.not_mem_nil, or_false]
  rcases h with ((h | h | h | h) | h) | h
  · exact .inr (.inl h)
  · exact .inr (.inr (.inl h))
  · exact .inr (.inr (.inr (.inl h)))
  · exact .inl h
  · split at h
    · exact .inr (.inr (.inr (.inr (List.mem_singleton.1 h))))
    · exact absurd h List.not_mem_nil
  · exact .inr (.inr (.inr (.inl h)))

theorem not_mem_listingFront (isColored : Bool) (r : Result) {heading : String}
    (h : heading ∈ headings isColored) : heading ∉ listingFront isColored r := by
  -- The third character tells the summary from a heading, with or without its color.
  have hsummary : (Style.cyan.paint isColored (summaryLine r)).toList[2]? =
      some (if isColored then '3' else 'm') := by
    delta summaryLine
    cases isColored <;> simp [Style.paint, Style.start, String.toList_append]
  have hheading : ∀ line ∈ headings isColored, line ∉ fixedLines isColored ∧
      line.toList[2]? ≠ some (if isColored then '3' else 'm') := by
    cases isColored <;> decide +kernel
  intro hmem
  rcases eq_or_mem_of_mem_listingFront hmem with rfl | hfixed
  · exact (hheading _ h).2 hsummary
  · exact (hheading _ h).1 hfixed

/-- The section of tables. -/
theorem sectionOf_tables (isColored : Bool) (r : Result) :
    sectionOf (Style.bold.paint isColored "Tables:") (listingLines isColored r) =
      (realTables r.graph).flatMap (tableLines isColored r.graph) := by
  rw [listingLines_eq]
  exact sectionOf_append (not_mem_listingFront isColored r (by simp [headings]))
    (fun h => (isIndented_tableLines h).ne.1 rfl) _

/-- The section of joins. -/
theorem sectionOf_joins (isColored : Bool) (r : Result) :
    sectionOf (Style.bold.paint isColored "Joins:") (listingLines isColored r) =
      (realJoins r.graph).map (joinLine isColored) := by
  have hheading : Style.bold.paint isColored "Joins:" ∈ headings isColored := by simp [headings]
  have hfront : Style.bold.paint isColored "Joins:" ∉
      listingFront isColored r ++ Style.bold.paint isColored "Tables:" ::
        ((realTables r.graph).flatMap (tableLines isColored r.graph) ++ [""]) := by
    have hne : Style.bold.paint isColored "Joins:" ≠ Style.bold.paint isColored "Tables:" := by
      cases isColored <;> decide
    have hempty : Style.bold.paint isColored "Joins:" ≠ "" := by cases isColored <;> decide
    simp only [List.mem_append, List.mem_cons, List.not_mem_nil, or_false, not_or]
    exact ⟨not_mem_listingFront isColored r hheading, hne,
      fun h => (isIndented_tableLines h).ne.2 isColored hheading, hempty⟩
  have hbody : "" ∉ (realJoins r.graph).map (joinLine isColored) := by
    intro h
    obtain ⟨l, -, hl⟩ := List.mem_map.1 h
    exact (isIndented_joinLine isColored l).ne.1 hl
  rw [listingLines_eq]
  cases hjoins : realJoins r.graph with
  | nil =>
      simp only [joinLines, hjoins, List.isEmpty_nil, if_true, List.map_nil]
      exact sectionOf_of_not_mem hfront
  | cons l links =>
      have hlines : listingFront isColored r ++ Style.bold.paint isColored "Tables:" ::
          ((realTables r.graph).flatMap (tableLines isColored r.graph) ++
            "" :: joinLines isColored r.graph) =
          (listingFront isColored r ++ Style.bold.paint isColored "Tables:" ::
            ((realTables r.graph).flatMap (tableLines isColored r.graph) ++ [""])) ++
            Style.bold.paint isColored "Joins:" ::
              ((realJoins r.graph).map (joinLine isColored) ++ "" :: []) := by
        simp [joinLines, hjoins]
      rw [hlines, sectionOf_append hfront hbody, hjoins]

/-! ## Aliases -/

theorem mem_aliasesOf_iff (g : Graph) (table : Node) (a : String) :
    a ∈ aliasesOf g table ↔ g.aliases.find? a = some table.ownName := by
  rw [g.aliases.find?_eq_some_iff]
  simp [aliasesOf]

theorem nodup_aliasesOf (g : Graph) (table : Node) : (aliasesOf g table).Nodup :=
  g.aliases.keys_nodup.sublist (List.filter_sublist.map Prod.fst)

/-! ## Line feeds -/

/-- No name in the graph has a line feed in it. -/
def Unbroken (g : Graph) : Prop := ∀ n ∈ g.nodes, '\n' ∉ n.id.toList ∧ '\n' ∉ n.name.toList

variable {g : Graph} {tables : List String} {bindings : List (String × String)}

theorem feed_not_mem_summaryLine (r : Result) : '\n' ∉ (summaryLine r).toList := by
  have hdecimal : ∀ n, '\n' ∉ (decimal n).toList := by
    intro n hmem
    rw [decimal, String.toList_ofList] at hmem
    exact absurd (Nat.isDigit_of_mem_toDigits (by decide) (by decide) hmem) (by decide)
  have hparser : '\n' ∉ r.parser.name.toList := by cases r.parser <;> decide
  delta summaryLine
  simp [hdecimal, hparser]

/-- Control sequences have no line feed. -/
theorem feed_not_mem_paint (style : Style) (isColored : Bool) {text : String}
    (h : '\n' ∉ text.toList) :
    '\n' ∉ (style.paint isColored text).toList := by
  have hcodes : '\n' ∉ style.start.toList ∧ '\n' ∉ style.stop.toList := by cases style <;> decide
  cases isColored <;> simp [Style.paint, hcodes, h]

theorem feed_not_mem_fieldMarks (isColored : Bool) (f : Node) :
    '\n' ∉ (fieldMarks isColored f).toList := by
  unfold fieldMarks
  cases isColored <;> cases f.isResult <;> cases f.isJoinField <;> decide

/-- Each part of an identifier of the graph is without line feeds. -/
private theorem feed_not_mem_of_has (hg : Unbroken g) {id : String} (h : g.has id = true) :
    '\n' ∉ id.toList := by
  obtain ⟨n, hn, rfl⟩ := (g.has_iff id).1 h
  exact (hg n hn).1

theorem feed_not_mem_tableLines (h : g.Grouped tables bindings) (hg : Unbroken g) {isColored : Bool}
    {line : String} (hline : line ∈ (realTables g).flatMap (tableLines isColored g)) :
    '\n' ∉ line.toList := by
  obtain ⟨t, ht, hline⟩ := List.mem_flatMap.1 hline
  have hname := (hg t (Graph.mem_nodes_of_mem_tables ht)).2
  have haliases : '\n' ∉ (", ".intercalate (aliasesOf g t)).toList := by
    intro hmem
    rcases Text.mem_intercalate hmem with hmem | ⟨a, ha, hmem⟩
    · exact absurd hmem (by decide)
    · have hbound := (h.bound _ _).1 ((mem_aliasesOf_iff g t a).1 ha)
      have hnode : Node.ofAlias a t.ownName ∈ g.tables.filter Node.isAlias :=
        h.aliases_eq ▸ List.mem_map.2 ⟨_, hbound, rfl⟩
      have hid := (hg _ (Graph.mem_nodes_of_mem_tables hnode)).1
      simp [Node.ofAlias, tableId, hmem] at hid
  rcases List.mem_cons.1 hline with rfl | hline
  · split
    · simp [hname]
    · simpa [hname] using haliases
  · obtain ⟨f, hf, rfl⟩ := List.mem_map.1 hline
    have hfield := (hg f (Graph.mem_nodes_of_mem_fieldsOf hf)).2
    simp [hfield, feed_not_mem_fieldMarks isColored f]

/-- What is left of the name of a table has no other characters. -/
private theorem feed_not_mem_nameInId {name : String} (h : '\n' ∉ (tableId name).toList) :
    '\n' ∉ (nameInId (tableId name)).toList := by
  obtain ⟨n, hn⟩ := (shownAs_nameInId name).marks
  have hname : '\n' ∉ name.toList := fun hmem => h (by simp [tableId, hmem])
  exact fun hmem => hname (hn ▸ List.mem_append_right _ hmem)

/-- The condition of a join has no line feed, as it is written with names of the graph. -/
private theorem feed_not_mem_condition {s : Statement} {o : Options}
    (hg : Unbroken (s.graph o)) {l : Link}
    (hl : l ∈ realJoins (s.graph o)) : '\n' ∉ (l.condition?.getD "").toList := by
  obtain ⟨condition, hcondition, q, field, q', field', hnames⟩ := Graph.exists_namesCondition hl
  obtain ⟨t, hfield⟩ := hnames.leftField
  obtain ⟨t', hfield'⟩ := hnames.rightField
  have hleft := feed_not_mem_of_has hg hnames.left
  have hright := feed_not_mem_of_has hg hnames.right
  have hleftField := feed_not_mem_of_has hg hfield
  have hrightField := feed_not_mem_of_has hg hfield'
  simp only [tableId, fieldId, String.toList_append, List.mem_append, not_or]
    at hleft hright hleftField hrightField
  simp [hcondition, hnames.written, hleft, hright, hleftField, hrightField]

theorem feed_not_mem_joinLine {s : Statement} {o : Options} (hg : Unbroken (s.graph o))
    (isColored : Bool) {l : Link} (hl : l ∈ realJoins (s.graph o)) :
    '\n' ∉ (joinLine isColored l).toList := by
  obtain ⟨tables, bindings, h⟩ := Graph.exists_grouped_graph s o
  obtain ⟨t, ht, u, hu, hsource, htarget⟩ := h.joined l hl
  have hid : ∀ t ∈ tables, '\n' ∉ (tableId t).toList := by
    intro t ht
    have hnode : Node.ofTable t ∈ realTables (s.graph o) := h.tables_eq ▸ List.mem_map_of_mem ht
    exact (hg _ (Graph.mem_nodes_of_mem_tables hnode)).1
  have hcondition := feed_not_mem_condition hg hl
  have harrow := feed_not_mem_paint .green isColored (show '\n' ∉ "↔".toList by decide)
  rw [joinLine, hsource, htarget]
  split <;>
    simp [hcondition, harrow, feed_not_mem_nameInId (hid t ht), feed_not_mem_nameInId (hid u hu)]

theorem feed_not_mem_listingFront (isColored : Bool) (r : Result) :
    ∀ line ∈ listingFront isColored r, '\n' ∉ line.toList := by
  have hrule : '\n' ∉ (String.ofList (List.replicate 50 '═')).toList := by
    rw [String.toList_ofList]
    decide
  intro line hline
  rcases eq_or_mem_of_mem_listingFront hline with rfl | hline
  · exact feed_not_mem_paint _ _ (feed_not_mem_summaryLine r)
  · simp only [fixedLines, List.mem_cons, List.not_mem_nil, or_false] at hline
    rcases hline with rfl | rfl | rfl | rfl
    · exact feed_not_mem_paint _ _ (by decide)
    · exact feed_not_mem_paint _ _ hrule
    · decide
    · exact feed_not_mem_paint _ _ (by decide)

theorem feed_not_mem_joinLines {s : Statement} {o : Options} (hg : Unbroken (s.graph o))
    {isColored : Bool} {line : String} (hline : line ∈ joinLines isColored (s.graph o)) :
    '\n' ∉ line.toList := by
  simp only [joinLines] at hline
  split at hline
  · exact absurd hline List.not_mem_nil
  · rw [List.cons_append, List.mem_cons, List.mem_append, List.mem_map, List.mem_singleton] at hline
    rcases hline with rfl | ⟨l, hl, rfl⟩ | rfl
    · exact feed_not_mem_paint _ _ (by decide)
    · exact feed_not_mem_joinLine hg isColored hl
    · decide

/-- The text of a listing has the lines of the listing. -/
theorem lines_listing (s : Statement) (o : Options) (shown : Statement) (parser : ParserKind)
    (hg : Unbroken (s.graph o)) (isColored : Bool) :
    Text.lines (listing isColored ⟨s.graph o, shown, parser⟩) =
      listingLines isColored ⟨s.graph o, shown, parser⟩ := by
  obtain ⟨tables, bindings, h⟩ := Graph.exists_grouped_graph s o
  refine Text.lines_unlines fun line hline => ?_
  rw [listingLines_eq, List.mem_append, List.mem_cons, List.mem_append, List.mem_cons] at hline
  rcases hline with hline | rfl | hline | rfl | hline
  · exact feed_not_mem_listingFront _ _ line hline
  · exact feed_not_mem_paint _ _ (by decide)
  · exact feed_not_mem_tableLines h hg hline
  · decide
  · exact feed_not_mem_joinLines hg hline

/-! ## The listing of a graph -/

/-- A table as it is listed. -/
structure ListedTable where
  name : String
  aliases : List String
  fields : List Node

/-- The lines of a listed table: one for its name and its aliases, and one for each field. -/
def ListedTable.lines (isColored : Bool) (t : ListedTable) : List String :=
  ("  " ++ t.name ++ if t.aliases = [] then "" else " (as " ++ ", ".intercalate t.aliases ++ ")")
    :: t.fields.map fun f => "    " ++ f.name ++ fieldMarks isColored f

/-- The listed tables are those of the graph, each with the aliases that are bound to it and with
its own fields; and all fields are listed. -/
structure Lists (listed : List ListedTable) (g : Graph) : Prop where
  tables : listed.map (fun t => Node.ofTable t.name) = realTables g
  names_nodup : (listed.map ListedTable.name).Nodup
  aliases : ∀ t ∈ listed, t.aliases.Nodup ∧ ∀ a, a ∈ t.aliases ↔ g.aliases.find? a = some t.name
  owned : ∀ t ∈ listed, ∀ f ∈ t.fields, f.table? = some t.name
  fields : (listed.flatMap ListedTable.fields).Perm g.fields

/-- The line shows a join of two of the tables, left and right of the arrow, though without the
marks in front of their names. -/
def ShowsJoin (isColored : Bool) (tables : List String) (l : Link) (line : String) : Prop :=
  ∃ t ∈ tables, ∃ u ∈ tables, l.source = tableId t ∧ l.target = tableId u ∧
    ∃ left right, ShownAs t left ∧ ShownAs u right ∧
      line = "  " ++ left ++ " " ++ Style.green.paint isColored "↔" ++ " " ++ right ++ "  ON " ++
        l.condition?.getD "" ++ if l.confidence? = some .inferred then " (inferred)" else ""

theorem showsJoin_joinLine (h : g.Grouped tables bindings) (isColored : Bool) {l : Link}
    (hl : l ∈ realJoins g) : ShowsJoin isColored tables l (joinLine isColored l) := by
  obtain ⟨t, ht, u, hu, hsource, htarget⟩ := h.joined l hl
  refine ⟨t, ht, u, hu, hsource, htarget, _, _, shownAs_nameInId t, shownAs_nameInId u, ?_⟩
  rw [joinLine, hsource, htarget]
  simp only [beq_iff_eq]

/-- The tables of a graph as they are listed. -/
def listedTables (g : Graph) : List ListedTable :=
  (realTables g).map fun t => ⟨t.name, aliasesOf g t, fieldsOf g t⟩

theorem flatMap_lines_listedTables (isColored : Bool) (g : Graph) :
    (listedTables g).flatMap (ListedTable.lines isColored) =
      (realTables g).flatMap (tableLines isColored g) := by
  rw [listedTables, List.flatMap_map]
  refine List.flatMap_congr fun t _ => ?_
  simp only [ListedTable.lines, tableLines, List.isEmpty_iff]

theorem lists_listedTables (h : g.Grouped tables bindings) : Lists (listedTables g) g where
  tables := by
    rw [listedTables, List.map_map, h.tables_eq, List.map_map]
    rfl
  names_nodup := by
    rw [listedTables, List.map_map, h.tables_eq, List.map_map]
    simpa [Function.comp_def, Node.ofTable] using h.tables_nodup
  aliases := by
    intro t ht
    obtain ⟨n, hn, rfl⟩ := List.mem_map.1 ht
    obtain ⟨name, -, rfl⟩ := List.mem_map.1 (h.tables_eq ▸ hn)
    exact ⟨nodup_aliasesOf g _, mem_aliasesOf_iff g _⟩
  owned := by
    intro t ht f hf
    obtain ⟨n, hn, rfl⟩ := List.mem_map.1 ht
    obtain ⟨name, -, rfl⟩ := List.mem_map.1 (h.tables_eq ▸ hn)
    simpa [Node.ofTable] using (List.mem_filter.1 hf).2
  fields := by
    rw [listedTables, List.flatMap_map]
    exact h.fields_perm

/-- The summary counts what is listed. -/
theorem summaryLine_eq {r : Result} {listed : List ListedTable} (h : Lists listed r.graph) :
    summaryLine r = "Summary: " ++ decimal listed.length ++ " tables | "
      ++ decimal (listed.flatMap ListedTable.fields).length ++ " fields | "
      ++ decimal (realJoins r.graph).length ++ " joins | parser: " ++ r.parser.name := by
  delta summaryLine
  rw [← h.tables, List.length_map, h.fields.length_eq]

/-- The listing of the graph of a statement, with colors or without, if no name in the graph has a
line feed.  Its tables are those of the graph, once each and with just the aliases that are bound
to them, and each field stands once, under its own table.  Its joins are those of the graph, in
order, each between two of the tables.  The summary counts the tables, fields and joins that are
listed.

A join shows the name of a table without the marks in front of it, so it shows the name itself
exactly if it does not start with one. -/
theorem listing_graph (s : Statement) (o : Options) (shown : Statement) (parser : ParserKind)
    (isColored : Bool) (hnames : Unbroken (s.graph o)) :
    let lines := Text.lines (listing isColored ⟨s.graph o, shown, parser⟩)
    let joins := sectionOf (Style.bold.paint isColored "Joins:") lines
    ∃ listed : List ListedTable, Lists listed (s.graph o) ∧
      sectionOf (Style.bold.paint isColored "Tables:") lines =
        listed.flatMap (ListedTable.lines isColored) ∧
      List.Forall₂ (ShowsJoin isColored (listed.map ListedTable.name))
        (realJoins (s.graph o)) joins ∧
      lines[3]? = some (Style.cyan.paint isColored ("Summary: " ++ decimal listed.length ++
        " tables | " ++ decimal (listed.flatMap ListedTable.fields).length ++ " fields | " ++
        decimal joins.length ++ " joins | parser: " ++ parser.name)) ∧
      ∀ name left, ShownAs name left → (left = name ↔ ¬ tableMark <+: name.toList) := by
  intro lines joins
  obtain ⟨tables, bindings, h⟩ := Graph.exists_grouped_graph s o
  have hlines : lines = listingLines isColored ⟨s.graph o, shown, parser⟩ :=
    lines_listing s o shown parser hnames isColored
  have hjoins : joins = (realJoins (s.graph o)).map (joinLine isColored) := by
    show sectionOf _ lines = _
    rw [hlines, sectionOf_joins]
  have hlists := lists_listedTables h
  have hname : (listedTables (s.graph o)).map ListedTable.name = tables := by
    rw [listedTables, List.map_map, h.tables_eq, List.map_map]
    simp [Function.comp_def, Node.ofTable]
  refine ⟨listedTables (s.graph o), hlists, ?_, ?_, ?_, fun _ _ hshown => hshown.eq_iff⟩
  · rw [hlines, sectionOf_tables, flatMap_lines_listedTables]
  · rw [hname, hjoins, List.forall₂_map_right_iff, List.forall₂_same]
    exact fun l hl => showsJoin_joinLine h isColored hl
  · rw [hjoins, List.length_map, hlines,
      ← summaryLine_eq (r := ⟨s.graph o, shown, parser⟩) hlists]
    rfl

instance (g : Graph) : Decidable (Unbroken g) :=
  inferInstanceAs (Decidable (∀ n ∈ g.nodes, '\n' ∉ n.id.toList ∧ '\n' ∉ n.name.toList))

/-- Two tables, one of them with an alias and a column. -/
def renamedUsers : Statement :=
  ⟨[⟨"users", some "u"⟩, ⟨"orders", none⟩], [], [⟨some "u", "name", none⟩], none⟩

/-- On a terminal, the two tables are listed, and one join. -/
theorem listing_graph_renamed :
    Unbroken (renamedUsers.graph .default) ∧
      let lines := Text.lines (listing true ⟨renamedUsers.graph .default, renamedUsers, .grammar⟩)
      ∃ listed : List ListedTable,
        listed.map (fun t => Node.ofTable t.name) = ["users", "orders"].map .ofTable ∧
        sectionOf "\x1b[1mTables:\x1b[0m" lines = listed.flatMap (ListedTable.lines true) ∧
        (sectionOf "\x1b[1mJoins:\x1b[0m" lines).length = 1 := by
  have hnames : Unbroken (renamedUsers.graph .default) := by decide +kernel
  have htables : realTables (renamedUsers.graph .default) = ["users", "orders"].map .ofTable := by
    decide +kernel
  have hjoins : (realJoins (renamedUsers.graph .default)).length = 1 := by decide +kernel
  obtain ⟨listed, hlists, hlines, hshown, -⟩ :=
    listing_graph renamedUsers .default renamedUsers .grammar true hnames
  exact ⟨hnames, listed, hlists.tables.trans htables, hlines, hshown.length_eq.symm.trans hjoins⟩

/-- A table whose name starts with the mark. -/
def markedTable : Statement := ⟨[⟨"table:a", none⟩, ⟨"b", none⟩], [], [], none⟩

/-- The join of this table is shown as one of a table that is not there. -/
theorem listing_graph_marked :
    let g := markedTable.graph .default
    Unbroken g ∧ realTables g = ["table:a", "b"].map .ofTable ∧
      (realJoins g).map (fun l => (l.source, l.target)) = [(tableId "table:a", tableId "b")] ∧
      sectionOf "Joins:" (Text.lines (listing false ⟨g, markedTable, .grammar⟩)) =
        ["  a ↔ b  ON table:a.id = b.table:a_id (inferred)"] := by
  have hnames : Unbroken (markedTable.graph .default) := by decide +kernel
  have hjoins : realJoins (markedTable.graph .default) =
      [.ofJoin .tableJoin (tableId "table:a") (tableId "b") "table:a.id = b.table:a_id"
        .inferred] := by
    decide +kernel
  have hleft : nameInId (tableId "table:a") = "a" := by
    refine String.ext ((toList_nameInId "table:a").trans ?_)
    exact (withoutMark_append (show tableMark ≠ [] by decide) ['a']).trans
      (withoutMark_of_bare _ (by decide))
  have hright : nameInId (tableId "b") = "b" :=
    String.ext ((toList_nameInId "b").trans (withoutMark_of_bare _ (by decide)))
  have hsection := sectionOf_joins false ⟨markedTable.graph .default, markedTable, .grammar⟩
  refine ⟨hnames, by decide +kernel, by rw [hjoins]; rfl, ?_⟩
  rw [lines_listing _ _ _ _ hnames]
  refine hsection.trans ?_
  rw [hjoins, List.map_singleton, joinLine]
  simp only [Link.ofJoin, hleft, hright]
  rfl

end JoinGraph.Render
