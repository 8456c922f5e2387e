import JoinGraph.Proofs.ColumnNames
import JoinGraph.Proofs.NormalStatement
import JoinGraph.Proofs.TableNames

/-!
# Names in the trees that are read

Names go through words, segments of paths and the removal of delimiters before they stand in a
tree, and each of these steps could leave an empty name or a composite one.  None does: tables and
their aliases are plain names, a column and its qualifier are one segment each, and an alias that
nothing is left of is no alias.

The statement of a tree leaves out the tables that have no names, and what is empty.  Of a tree
whose names are such it leaves out nothing but aliases that clash.

## Main results

* `isSplit_columnOf?` — the column and the qualifier of a path.
* `Select.WellNamed.joins_statement`, `Select.WellNamed.projected_statement` — what the statement
  keeps.
* `read_wellNamed` — all trees that are read are well named, and their statements keep every entry.
-/

namespace JoinGraph

open Text (isBlank)

/-! ## Names -/

/-- A name that has characters, all of them alphanumeric, `_` or `$`. -/
structure IsPlain (name : String) : Prop where
  ne_empty : name ≠ ""
  parts : ∀ c ∈ name.toList, Text.isAlphanumeric c = true ∨ c = '_' ∨ c = '$'

/-- A name in one piece, without dots, blanks and delimiters. -/
structure IsSegment (name : String) : Prop where
  ne_empty : name ≠ ""
  undotted : '.' ∉ name.toList
  unbroken : ∀ c ∈ name.toList, isBlank c = false ∧ Name.isDelimiter c = false

/-- A column whose name and qualifier are one segment each. -/
structure ColumnRef.IsSplit (c : ColumnRef) : Prop where
  column : IsSegment c.column
  table : ∀ t ∈ c.table, IsSegment t

/-- A tree all of whose names are in one piece. -/
structure Shape.Flat.Select.WellNamed (s : Shape.Flat.Select) : Prop where
  tables : ∀ t ∈ s.tables, IsPlain t.table ∧ ∀ a ∈ t.alias?, IsPlain a
  joins : ∀ j ∈ s.joins, IsPlain j.table ∧ ∀ a ∈ j.alias?, IsPlain a
  sides : ∀ j ∈ s.joins, ∀ c, j.left = some c ∨ j.right = some c → c.IsSplit
  columns : ∀ c ∈ s.columns, c.ref.IsSplit ∧ c.ref.column ≠ "*"
  aliases : ∀ c ∈ s.columns, ∀ a ∈ c.alias?, a ≠ "" ∧ Text.trim a = a
  condition : ∀ c ∈ s.condition, c.left.IsSplit

theorem isPlain_of_isNamePart {name : String} (hne : name ≠ "")
    (hparts : ∀ c ∈ name.toList, Pattern.isNamePart c = true) : IsPlain name := by
  refine ⟨hne, ?_⟩
  intro c hc
  have hc := hparts c hc
  simpa only [Pattern.isNamePart, Bool.or_eq_true, beq_iff_eq, or_assoc] using hc

theorem IsSegment.isBareName {name : String} (h : IsSegment name) : IsBareName name where
  ne_empty := h.ne_empty
  trimmed := by
    rw [Text.trim, Text.trimChars_of_no_blank fun c hc => (h.unbroken c hc).1, String.ofList_toList]
  undelimited := fun c hc => (h.unbroken c hc).2
  undotted := h.undotted

theorem IsPlain.isSegment {name : String} (h : IsPlain name) : IsSegment name where
  ne_empty := h.ne_empty
  undotted := by
    intro hdot
    rcases h.parts '.' hdot with hpart | hpart | hpart
    · exact absurd hpart (by decide +kernel)
    · cases hpart
    · cases hpart
  unbroken := by
    intro c hc
    rcases h.parts c hc with hpart | rfl | rfl
    · constructor
      · refine Bool.eq_false_iff.2 ?_
        intro hblank
        rw [Text.isAlphanumeric_of_isBlank hblank] at hpart
        cases hpart
      · refine Bool.eq_false_iff.2 ?_
        intro hdelimiter
        simp only [Name.isDelimiter, Bool.or_eq_true, beq_iff_eq] at hdelimiter
        rcases hdelimiter with ((rfl | rfl) | rfl) | rfl <;> exact absurd hpart (by decide +kernel)
    · decide
    · decide

namespace Pattern

/-! ## Tables -/

theorem isPlain_aliasAmong? {words : List (List Char)} {a : String}
    (h : aliasAmong? words = some a) :
    IsPlain a := by
  obtain ⟨hplain, hbare⟩ := isPlainName_aliasAmong? h
  simp only [isPlainName, hbare, Bool.and_eq_true, Bool.not_eq_true', List.isEmpty_eq_false_iff,
    List.all_eq_true] at hplain
  apply isPlain_of_isNamePart
  · simpa using hplain.1.1
  · exact hplain.2

theorem isPlain_alias_of_table? {entry : List Char} {t : Shape.Flat.Table}
    (h : table? entry = some t) :
    ∀ a ∈ t.alias?, IsPlain a := by
  obtain ⟨word, others, -, -, -, rfl⟩ := words_of_table? h
  exact fun a ha => isPlain_aliasAmong? ha

theorem IsReadTable.isPlain {ends : List String} {text : List Char} {name : String}
    (h : IsReadTable ends text name) : IsPlain name := isPlain_of_isNamePart h.ne_empty h.parts

theorem isPlain_tables {text : List Char} {t : Shape.Flat.Table} (h : t ∈ tables text) :
    IsPlain t.table ∧ ∀ a ∈ t.alias?, IsPlain a := by
  refine ⟨(isReadTable_tables h).1.isPlain, ?_⟩
  obtain ⟨found, -, ht⟩ := List.mem_flatMap.1 h
  obtain ⟨entry, -, htable⟩ := List.mem_filterMap.1 ht
  exact isPlain_alias_of_table? htable

theorem isPlain_joins {text : List Char} {j : Shape.Flat.Join} (h : j ∈ joins text) :
    IsPlain j.table ∧ ∀ a ∈ j.alias?, IsPlain a := by
  refine ⟨(isReadTable_joins h).1.isPlain, ?_⟩
  obtain ⟨found, -, hjoin⟩ := List.mem_filterMap.1 h
  exact isPlain_alias_of_table? (table?_of_join? hjoin)

/-! ## Columns -/

section Columns

variable {text : List Char} {ref : ColumnRef}

/-- What is left of a segment of a path without its delimiters is in one piece. -/
theorem isSegment_of_bareChars {part : List Char} {name : String}
    (hpart : part ∈ Text.splitChars '.' text)
    (hblank : ∀ c ∈ text, isBlank c = false) (hname : Name.bareChars part = name.toList)
    (hne : name ≠ "") : IsSegment name := by
  have hmem : ∀ c ∈ name.toList, c ∈ part ∧ Name.isDelimiter c = false := by
    intro c hc
    rw [← hname] at hc
    simpa using List.mem_filter.1 (Text.trimChars_subset _ hc)
  refine ⟨hne, ?_, ?_⟩
  · intro hdot
    exact not_mem_of_mem_splitChars hpart (hmem _ hdot).1
  · intro c hc
    exact ⟨hblank c ((infix_of_mem_splitChars hpart).subset (hmem c hc).1), (hmem c hc).2⟩

theorem mem_of_ofSegments?_table {segments : List (List Char)}
    (h : ColumnRef.ofSegments? segments = some ref) :
    ∀ t ∈ ref.table, t.toList ∈ segments ∧ t ≠ "" := by
  fun_induction ColumnRef.ofSegments? segments with
  | case1 => cases h
  | case2 => cases h
  | case3 column hne =>
      cases h
      simp
  | case4 => cases h
  | case5 table column hne =>
      cases h
      by_cases htable : table = []
      · simp [htable]
      · simp [htable]
  | case6 _ rest _ _ ih =>
      intro t ht
      exact ⟨List.mem_cons_of_mem _ (ih h t ht).1, (ih h t ht).2⟩

/-- The column and the qualifier of a path are one segment each. -/
theorem isSplit_columnOf? (h : columnOf? text = some ref) : ref.IsSplit := by
  rw [columnOf?, Option.ite_none_right_eq_some] at h
  obtain ⟨hpath, href⟩ := h
  simp only [isColumnPath, Bool.and_eq_true, List.all_eq_true] at hpath
  have hblank : ∀ c ∈ text, isBlank c = false :=
    fun c hc => not_isBlank_of_isPathPart (hpath.2 c hc)
  rw [ColumnRef.ofPathChars?, Text.trimChars_of_no_blank hblank] at href
  have hsegment : ∀ name : String, name.toList ∈ (Text.splitChars '.' text).map Name.bareChars →
      name ≠ "" → IsSegment name := by
    intro name hmem hne
    obtain ⟨part, hpart, hname⟩ := List.mem_map.1 hmem
    exact isSegment_of_bareChars hpart hblank hname hne
  have hcolumn := mem_of_ofSegments? href
  have htable := mem_of_ofSegments?_table href
  exact ⟨hsegment _ hcolumn.1 hcolumn.2, fun t ht => hsegment t (htable t ht).1 (htable t ht).2⟩

/-! ### The SELECT list -/

/-- There are no blanks around an alias of a column. -/
theorem trimChars_splitAlias {item name : List Char} (h : (splitAlias item).2 = some name) :
    Text.trimChars name = name := by
  have hbare : ∀ written : List Char, Text.trimChars (Name.bareChars written) =
      Name.bareChars written :=
    fun written => Text.trimChars_trimChars _
  unfold splitAlias at h
  split at h
  · cases h
    apply hbare
  · split at h
    · split at h
      · cases h
        apply hbare
      · cases h
    · cases h

/-- An entry of the SELECT list is read as a path with an alias, and what is no name of either is
left out. -/
theorem column?_eq_some {c : Shape.Flat.Column} (h : column? text = some c) :
    columnOf? (splitAlias (Text.trimChars text)).1 = some c.ref ∧ c.ref.column ≠ "*" ∧
      c.alias? = (((splitAlias (Text.trimChars text)).2).filter fun n =>
        !n.isEmpty).map String.ofList := by
  simp only [column?, Option.bind_eq_bind] at h
  obtain ⟨ref, href, h⟩ := Option.bind_eq_some_iff.1 h
  split at h
  · cases h
  · next hstar =>
      cases h
      exact ⟨href, hstar, rfl⟩

theorem alias_of_column? {c : Shape.Flat.Column} (h : column? text = some c) :
    ∀ a ∈ c.alias?, a ≠ "" ∧ Text.trim a = a := by
  intro a ha
  rw [Option.mem_def, (column?_eq_some h).2.2] at ha
  obtain ⟨name, hname, rfl⟩ := Option.map_eq_some_iff.1 ha
  obtain ⟨hname, hne⟩ := Option.filter_eq_some_iff.1 hname
  constructor
  · simpa using hne
  · rw [Text.trim, String.toList_ofList, trimChars_splitAlias hname]

/-- An entry of the SELECT list is read from a part of the text. -/
theorem column?_of_mem_columns {c : Shape.Flat.Column} (h : c ∈ columns text) :
    ∃ entry, column? entry = some c := by
  unfold columns at h
  split at h
  · cases h
  · split at h
    · cases h
    · obtain ⟨entry, -, hentry⟩ := List.mem_filterMap.1 h
      exact ⟨entry, hentry⟩

/-! ### Conditions -/

theorem isSplit_joinSide? (h : joinSide? text = some ref) : ref.IsSplit := by
  rw [joinSide?] at h
  split at h
  · cases h
  · exact isSplit_columnOf? h

theorem isSplit_joinSides (h : (joinSides text).1 = some ref ∨ (joinSides text).2 = some ref) :
    ref.IsSplit := by
  rw [joinSides] at h
  split at h
  · rcases h with h | h
    · exact isSplit_joinSide? h
    · exact isSplit_joinSide? h
  · rcases h with h | h <;> cases h

theorem isSplit_joins {j : Shape.Flat.Join} (h : j ∈ joins text)
    (href : j.left = some ref ∨ j.right = some ref) : ref.IsSplit := by
  obtain ⟨found, -, hjoin⟩ := List.mem_filterMap.1 h
  unfold join? at hjoin
  obtain ⟨t, -, rfl⟩ := Option.map_eq_some_iff.1 hjoin
  cases hon : first? (wholeWord "on") (textBefore (anyWord clauseEnds) found.after) with
  | none => simp [hon] at href
  | some on =>
      simp only [hon] at href
      exact isSplit_joinSides href

theorem isSplit_condition? {c : Condition} (h : condition? text = some c) : c.left.IsSplit := by
  simp only [condition?, Option.bind_eq_bind] at h
  obtain ⟨found, -, h⟩ := Option.bind_eq_some_iff.1 h
  simp only [comparison?, Option.bind_eq_bind] at h
  obtain ⟨operator, -, h⟩ := Option.bind_eq_some_iff.1 h
  split at h
  · cases h
  · obtain ⟨ref, href, h⟩ := Option.bind_eq_some_iff.1 h
    cases h
    exact isSplit_columnOf? href

end Columns

theorem wellNamed_readChars (sql : List Char) : (readChars sql).WellNamed where
  tables := fun _ ht => isPlain_tables ht
  joins := fun _ hj => isPlain_joins hj
  sides := fun _ hj _ href => isSplit_joins hj href
  columns := by
    intro c hc
    obtain ⟨entry, hentry⟩ := column?_of_mem_columns hc
    exact ⟨isSplit_columnOf? (column?_eq_some hentry).1, (column?_eq_some hentry).2.1⟩
  aliases := by
    intro c hc
    obtain ⟨entry, hentry⟩ := column?_of_mem_columns hc
    exact alias_of_column? hentry
  condition := fun _ hc => isSplit_condition? hc

end Pattern

/-! ## Statements -/

/-- Joins with names are all added, and their tables with them. -/
theorem Statement.foldl_pushJoin_of_not_blank {α : Type} {name : α → String} {entries : List α}
    (hname : ∀ e ∈ entries, Text.isBlankText (name e) = false) (alias? : α → Option String)
    (left right : α → Option ColumnRef) (s : Statement) :
    let d := entries.foldl (fun s e => s.pushJoin (name e) (alias? e) (left e) (right e)) s
    d.tables.map TableRef.name = s.tables.map TableRef.name ++ entries.map name ∧
      d.joins.map (fun j => (j.table, j.left, j.right)) =
        s.joins.map (fun j => (j.table, j.left, j.right)) ++
          entries.map fun e => (name e, left e, right e) := by
  induction entries generalizing s with
  | nil => simp
  | cons e entries ih =>
      have hpush :=
        pushJoin_of_not_blank (s := s) (hname e List.mem_cons_self) (alias? e) (left e) (right e)
      have hrest := ih (fun e he => hname e (List.mem_cons_of_mem _ he))
        (s.pushJoin (name e) (alias? e) (left e) (right e))
      rw [List.foldl_cons]
      refine ⟨hrest.1.trans ?_, hrest.2.trans ?_⟩ <;> simp [hpush]

namespace Shape.Flat.Select.WellNamed

variable {s : Select}

/-- Tables and joins of a statement are those of its tree, under the same names and with the same
sides. -/
theorem joins_statement (h : s.WellNamed) :
    s.statement.tables.map TableRef.name = s.tables.map (·.table) ++ s.joins.map (·.table) ∧
      s.statement.joins.map (fun j => (j.table, j.left, j.right)) =
        s.joins.map fun j => (j.table, j.left, j.right) := by
  have htable : ∀ t ∈ s.tables, Text.trim t.table = t.table := fun t ht =>
    (h.tables t ht).1.isSegment.isBareName.trimmed
  have hjoin : ∀ j ∈ s.joins, Text.trim j.table = j.table := fun j hj =>
    (h.joins j hj).1.isSegment.isBareName.trimmed
  have hnamed : ∀ j ∈ s.joins, Text.isBlankText (Text.trim j.table) = false := by
    intro j hj
    rw [hjoin j hj]
    exact (h.joins j hj).1.isSegment.isBareName.not_blank
  have hlisted := Statement.exists_tables_foldl (fun t : Table => Text.trim_trim t.table)
    (fun t => t.alias?.bind Text.nonBlank?) s.tables Statement.empty
  obtain ⟨hnone, listed, hlist, hnames⟩ := hlisted
  have hkept : listed.map TableRef.name = s.tables.map (·.table) := by
    rw [hnames, List.map_congr_left htable, List.filter_eq_self]
    intro name hname
    obtain ⟨t, ht, rfl⟩ := List.mem_map.1 hname
    simpa using (h.tables t ht).1.ne_empty
  have hfold := Statement.foldl_pushJoin_of_not_blank hnamed (fun j => j.alias?.bind Text.nonBlank?)
    Join.left Join.right
    (s.tables.foldl (fun s t =>
      s.pushTable (Text.trim t.table) (t.alias?.bind Text.nonBlank?)) .empty)
  constructor
  · refine hfold.1.trans ?_
    rw [hlist, List.map_append, hkept, List.map_congr_left hjoin]
    rfl
  · refine hfold.2.trans ?_
    rw [hnone]
    exact List.map_congr_left fun j hj => by rw [hjoin j hj]

/-- The columns of a statement are those of its tree, with their qualifiers and aliases. -/
theorem projected_statement (h : s.WellNamed) :
    s.statement.projected = s.columns.map fun c => ⟨c.ref.table, c.ref.column, c.alias?⟩ := by
  refine List.map_congr_left ?_
  intro c hc
  have htable : c.ref.table.bind Text.nonBlank? = c.ref.table :=
    bind_nonBlank?_of_bare fun t ht => ((h.columns c hc).1.table t ht).isBareName
  have halias : c.alias?.bind Text.nonBlank? = c.alias? := by
    cases ha : c.alias? with
    | none => rfl
    | some a =>
        have hname := h.aliases c hc a ha
        rw [Option.bind_some]
        exact (Text.nonBlank?_eq_some_iff a a).2 ⟨hname.2, hname.1⟩
  rw [htable, halias]

end Shape.Flat.Select.WellNamed

/--
Whatever text a tree is read from, its names are in one piece: tables and their aliases have
characters, all of them alphanumeric, `_` or `$`; columns and qualifiers have characters, but no
dots, blanks and delimiters; no column of the SELECT list is `*` or has an empty alias.  So the
statement of the tree has one table for each table and each join, under the same name, and as many
joins and columns.
-/
theorem read_wellNamed (sql : String) : (Pattern.read sql).WellNamed ∧
    ∃ s, (Tree.shaped (.flat (Pattern.read sql))).statement = .ok s ∧
      s.tables.map TableRef.name =
        (Pattern.read sql).tables.map (·.table) ++ (Pattern.read sql).joins.map (·.table) ∧
      s.joins.map (fun j => (j.table, j.left, j.right)) =
        (Pattern.read sql).joins.map (fun j => (j.table, j.left, j.right)) ∧
      s.projected =
        (Pattern.read sql).columns.map (fun c => ⟨c.ref.table, c.ref.column, c.alias?⟩) ∧
      s.tables.length = (Pattern.read sql).tables.length + (Pattern.read sql).joins.length ∧
      s.joins.length = (Pattern.read sql).joins.length ∧
      s.projected.length = (Pattern.read sql).columns.length := by
  have hnamed : (Pattern.read sql).WellNamed := Pattern.wellNamed_readChars sql.toList
  obtain ⟨htables, hjoins⟩ := hnamed.joins_statement
  have hprojected := hnamed.projected_statement
  refine ⟨hnamed, (Pattern.read sql).statement, rfl, htables, hjoins, hprojected, ?_, ?_, ?_⟩
  · simpa using congrArg List.length htables
  · simpa using congrArg List.length hjoins
  · simpa using congrArg List.length hprojected

end JoinGraph
