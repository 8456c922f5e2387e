import JoinGraph.Proofs.BareName
import JoinGraph.Proofs.Registration
import JoinGraph.Shape

/-!
# Normal statements

Whatever tree a statement is read off, its tables and joins agree.  Tables and aliases are spelled
without blanks around them, no alias is declared twice or repeats the name of its table, and a
join names a table by the name and the alias under which that was added (`Statement.Normal`).
This holds of the empty statement, and both ways of adding a table keep it.

The trees of two shapes list their joined tables behind the others, so there the joined tables
come last in the statement, too.

## Main results

* `Normal.pushTable`, `Normal.pushJoin` — adding a table, with or without a join, keeps the
  invariant.
* `normal_statement` — the statement of every tree is normal.
-/

namespace JoinGraph

namespace Statement

/-- Tables have trimmed names, aliases are trimmed and differ from each other and from the names
of their tables, and the joined tables are some of the tables, in order. -/
structure Normal (s : Statement) : Prop where
  names : ∀ t ∈ s.tables, Text.trim t.name = t.name ∧ t.name ≠ ""
  aliases : ∀ t ∈ s.tables, ∀ a, t.alias? = some a → Text.trim a = a ∧ a ≠ "" ∧ a ≠ t.name
  aliases_nodup : (s.tables.filterMap TableRef.alias?).Nodup
  joined : (s.joins.map Join.tableRef).Sublist s.tables

theorem normal_empty : Normal empty where
  names := by simp [empty]
  aliases := by simp [empty]
  aliases_nodup := by simp [empty]
  joined := by simp [empty]

/-! ## Adding tables -/

theorem ne_empty_of_not_blank {name : String} (h : Text.isBlankText name = false) : name ≠ "" := by
  rintro rfl
  exact absurd h (by decide)

section Steps

variable {s : Statement} {name : String} {alias? : Option String}

/-- A table with a name is added under this name, with an alias that none before it declares. -/
theorem Normal.add_table (h : s.Normal) (hname : Text.trim name = name) (hne : name ≠ "")
    (halias : ∀ a, alias? = some a → Text.trim a = a) :
    Normal { s with tables := s.tables ++ [⟨name, keptAlias s.tables name alias?⟩] } where
  names := by
    intro t ht
    rcases List.mem_append.1 ht with ht | ht
    · exact h.names t ht
    · rw [List.mem_singleton.1 ht]
      exact ⟨hname, hne⟩
  aliases := by
    intro t ht a ha
    rcases List.mem_append.1 ht with ht | ht
    · exact h.aliases t ht a ha
    · rw [List.mem_singleton.1 ht] at ha ⊢
      obtain ⟨hgiven, hempty, hown, -⟩ := (keptAlias_eq_some_iff _ _ _ _).1 ha
      exact ⟨halias a hgiven, hempty, hown⟩
  aliases_nodup := by
    rw [List.filterMap_append]
    cases hkept : keptAlias s.tables name alias? with
    | none => simpa [hkept] using h.aliases_nodup
    | some a =>
        have hfresh := ((keptAlias_eq_some_iff _ _ _ _).1 hkept).2.2.2
        refine List.nodup_append.2 ⟨h.aliases_nodup, by simp, ?_⟩
        rintro b hb c hc rfl
        simp only [List.filterMap_cons, List.filterMap_nil, List.mem_singleton] at hc
        exact hfresh (hc ▸ hb)
  joined := h.joined.trans (List.sublist_append_left _ _)

/-- A blank name is passed over, and every other is the name of a table. -/
theorem Normal.pushTable (h : s.Normal) (hname : Text.trim name = name)
    (halias : ∀ a, alias? = some a → Text.trim a = a) : (s.pushTable name alias?).Normal := by
  cases hblank : Text.isBlankText name with
  | true => rwa [pushTable_of_blank hblank]
  | false =>
      rw [pushTable_of_not_blank hblank]
      exact h.add_table hname (ne_empty_of_not_blank hblank) halias

/-- A join is added behind the others when its table is, with the name and the alias of that. -/
theorem Normal.pushJoin (h : s.Normal) (hname : Text.trim name = name)
    (halias : ∀ a, alias? = some a → Text.trim a = a) (left right : Option ColumnRef) :
    (s.pushJoin name alias? left right).Normal := by
  cases hblank : Text.isBlankText name with
  | true => rwa [pushJoin_of_blank hblank]
  | false =>
      have htable := h.add_table hname (ne_empty_of_not_blank hblank) halias
      rw [pushJoin_of_not_blank hblank]
      refine ⟨htable.names, htable.aliases, htable.aliases_nodup, ?_⟩
      rw [List.map_append]
      exact h.joined.append (.refl _)

end Steps

/-! ## Lists of tables and joins -/

section Lists

variable {α β : Type} {name : α → String} {joinedName : β → String}
  {joinedAlias? : β → Option String}

/-- From a list of tables those with names are added, and no joins. -/
theorem exists_tables_foldl (hname : ∀ e, Text.trim (name e) = name e) (alias? : α → Option String)
    (entries : List α) (s : Statement) :
    let d := entries.foldl (fun s e => s.pushTable (name e) (alias? e)) s
    d.joins = s.joins ∧ ∃ listed, d.tables = s.tables ++ listed ∧
      listed.map TableRef.name = (entries.map name).filter (· ≠ "") := by
  induction entries generalizing s with
  | nil => exact ⟨rfl, [], by simp, rfl⟩
  | cons e entries ih =>
      obtain ⟨hjoins, listed, htables, hlisted⟩ := ih (s.pushTable (name e) (alias? e))
      rw [List.foldl_cons, List.map_cons]
      cases hblank : Text.isBlankText (name e) with
      | true =>
          have hempty : name e = "" := by rw [← hname, Text.trim_eq_empty_iff, hblank]
          rw [pushTable_of_blank hblank] at hjoins htables ⊢
          exact ⟨hjoins, listed, htables, by simpa [hempty] using hlisted⟩
      | false =>
          have hne := ne_empty_of_not_blank hblank
          rw [pushTable_of_not_blank hblank] at hjoins htables ⊢
          refine ⟨hjoins, _ :: listed, htables.trans (List.append_assoc _ _ _), ?_⟩
          rw [List.map_cons, hlisted, List.filter_cons_of_pos (by simpa using hne)]

/-- Where the joined tables come last, a further one does. -/
theorem tables_pushJoin_of_last {s : Statement} {listed : List TableRef}
    (h : s.tables = listed ++ s.joins.map Join.tableRef) (table : String) (alias? : Option String)
    (left right : Option ColumnRef) :
    let d := s.pushJoin table alias? left right
    d.tables = listed ++ d.joins.map Join.tableRef := by
  cases hblank : Text.isBlankText table with
  | true => rwa [pushJoin_of_blank hblank]
  | false =>
      rw [pushJoin_of_not_blank hblank]
      simp [h, Join.tableRef]

/-- A list of tables and one of joins make a normal statement, in which the joined tables come
last. -/
theorem normal_lists {alias? : α → Option String} (hname : ∀ e, Text.trim (name e) = name e)
    (halias : ∀ e a, alias? e = some a → Text.trim a = a)
    (hjoinedName : ∀ e, Text.trim (joinedName e) = joinedName e)
    (hjoinedAlias : ∀ e a, joinedAlias? e = some a → Text.trim a = a)
    (left right : β → Option ColumnRef) (tables : List α) (joins : List β) :
    let d := joins.foldl (fun s e => s.pushJoin (joinedName e) (joinedAlias? e) (left e) (right e))
      (tables.foldl (fun s e => s.pushTable (name e) (alias? e)) empty)
    d.Normal ∧ ∃ listed, d.tables = listed ++ d.joins.map Join.tableRef ∧
      listed.map TableRef.name = (tables.map name).filter (· ≠ "") := by
  obtain ⟨hnone, listed, htables, hlisted⟩ := exists_tables_foldl hname alias? tables empty
  have hnormal := List.foldlRecOn (motive := Normal) tables _ normal_empty
    fun _ h e _ => h.pushTable (hname e) (halias e)
  refine ⟨List.foldlRecOn (motive := Normal) joins _ hnormal
    fun _ h e _ => h.pushJoin (hjoinedName e) (hjoinedAlias e) _ _, listed, ?_, hlisted⟩
  refine List.foldlRecOn (motive := fun d : Statement =>
    d.tables = listed ++ d.joins.map Join.tableRef)
    joins _ ?_ fun _ h e _ => tables_pushJoin_of_last h _ _ _ _
  rw [htables, hnone]
  simp [empty]

end Lists

end Statement

/-! ## Shapes -/

open Statement (Normal)

theorem trim_of_nonBlank? {name? : Option String} {a : String}
    (h : name?.bind Text.nonBlank? = some a) : Text.trim a = a := by
  obtain ⟨name, -, hname⟩ := Option.bind_eq_some_iff.1 h
  rw [← ((Text.nonBlank?_eq_some_iff name a).1 hname).1, Text.trim_trim]

theorem trim_of_map_bare {name? : Option String} {a : String} (h : name?.map Name.bare = some a) :
    Text.trim a = a := by
  obtain ⟨name, -, rfl⟩ := Option.map_eq_some_iff.1 h
  exact Text.trim_bare name

namespace Shape

theorem Grammar.normal_addTo {s : Statement} (h : s.Normal) (source : Grammar.Source) :
    (source.addTo s).Normal := by
  unfold Grammar.Source.addTo
  dsimp only
  split
  · exact h
  · split
    · exact h.pushJoin (Text.trim_bare _) (fun _ => trim_of_map_bare) _ _
    · exact h.pushTable (Text.trim_bare _) fun _ => trim_of_map_bare

theorem Grammar.normal_select (select : Grammar.Select) : select.statement.Normal := by
  have h : (select.sources.foldl Grammar.Source.addTo .empty).Normal :=
    List.foldlRecOn (motive := Normal) select.sources _ Statement.normal_empty
      fun _ h source _ => Grammar.normal_addTo h source
  exact ⟨h.names, h.aliases, h.aliases_nodup, h.joined⟩

/-- The names of the tables that a tree lists apart from the joined ones, if it lists these
apart. -/
def listedNames? : Shape → Option (List String)
  | grammar _ => none
  | structured select => some (select.tables.map fun t => Name.bare t.table)
  | flat select => some (select.tables.map fun t => Text.trim t.table)

/-- The joined tables come last, behind the listed ones that have names. -/
def JoinedLast (s : Statement) (names : List String) : Prop :=
  ∃ listed, s.tables = listed ++ s.joins.map Join.tableRef ∧
    listed.map TableRef.name = names.filter (· ≠ "")

theorem Structured.normal_select (select : Structured.Select) : select.statement.Normal ∧
    JoinedLast select.statement (select.tables.map fun t => Name.bare t.table) := by
  obtain ⟨h, hlast⟩ := Statement.normal_lists
    (fun t : Structured.Table => Text.trim_bare t.table) (fun t _ => trim_of_map_bare)
    (fun j : Structured.Join => Text.trim_bare j.table) (fun j _ => trim_of_map_bare)
    (fun j => j.on.bind fun on => on.left.bind Structured.Operand.ref?)
    (fun j => j.on.bind fun on => on.right.bind Structured.Operand.ref?) select.tables select.joins
  exact ⟨⟨h.names, h.aliases, h.aliases_nodup, h.joined⟩, hlast⟩

theorem Flat.normal_select (select : Flat.Select) : select.statement.Normal ∧
    JoinedLast select.statement (select.tables.map fun t => Text.trim t.table) := by
  obtain ⟨h, hlast⟩ := Statement.normal_lists
    (fun t : Flat.Table => Text.trim_trim t.table) (fun t _ => trim_of_nonBlank?)
    (fun j : Flat.Join => Text.trim_trim j.table) (fun j _ => trim_of_nonBlank?)
    Flat.Join.left Flat.Join.right select.tables select.joins
  exact ⟨⟨h.names, h.aliases, h.aliases_nodup, h.joined⟩, hlast⟩

/-- The statement of every tree is normal. -/
theorem normal : ∀ shape : Shape, shape.statement.Normal
  | grammar select => Grammar.normal_select select
  | structured select => (Structured.normal_select select).1
  | flat select => (Flat.normal_select select).1

/-- Where a tree lists the joined tables apart, they come last in the statement. -/
theorem joinedLast {shape : Shape} {names : List String} (h : shape.listedNames? = some names) :
    JoinedLast shape.statement names := by
  cases shape with
  | grammar select => cases h
  | structured select => exact Option.some.inj h ▸ (Structured.normal_select select).2
  | flat select => exact Option.some.inj h ▸ (Flat.normal_select select).2

end Shape

/-- The statement of every tree whose shape is recognized is normal.  Names of tables are trimmed
and not blank; aliases are trimmed, not empty, not the name of their table, and declared once; and
the joined tables are some of the tables, with the same aliases and in the same order.  If the
tree lists them apart, they are the last ones, behind the listed tables that have names. -/
theorem normal_statement {t : Tree} {shape : Shape} (h : t.recognize = .ok shape) :
    ∃ s, t.statement = .ok s ∧ s.Normal ∧ (∀ j ∈ s.joins, ⟨j.table, j.alias?⟩ ∈ s.tables) ∧
      ∀ names, shape.listedNames? = some names → ∃ listed,
        s.tables = listed ++ s.joins.map (fun j => ⟨j.table, j.alias?⟩) ∧
          listed.map TableRef.name = names.filter (· ≠ "") := by
  have hstatement : t.statement = .ok shape.statement := by
    rw [Tree.statement, h]
    rfl
  have hjoined : ∀ j ∈ shape.statement.joins, j.tableRef ∈ shape.statement.tables := fun j hj =>
    shape.normal.joined.subset (List.mem_map_of_mem hj)
  exact ⟨_, hstatement, shape.normal, hjoined, fun _ => Shape.joinedLast⟩

/-- A tree of listed and joined tables in delimiters and blanks.  One listed table has no name,
and two of the joined tables have an alias that is taken or is their name. -/
def dressedTables : Tree := .json (.object [("SELECT", .object [
  ("FROM", .array [.object [("table", .string " [users] "), ("as", .string "u ")],
    .object [("table", .string "[]")]]),
  ("JOIN", .array [.object [("table", .string "orders"), ("as", .string "[u]")],
    .object [("table", .string "items"), ("as", .string "items")],
    .object [("table", .string " users"), ("as", .string "boss")]])])])

/-- Aliases that clash are dropped, for the table and for its join. -/
theorem normal_statement_dressed : ∃ shape s, dressedTables.recognize = .ok shape ∧
    dressedTables.statement = .ok s ∧ s.Normal ∧
      s.tables = ⟨"users", some "u"⟩ :: s.joins.map (fun j => ⟨j.table, j.alias?⟩) ∧
      s.joins.map Join.tableRef = [⟨"orders", none⟩, ⟨"items", none⟩, ⟨"users", some "boss"⟩] := by
  obtain ⟨shape, hshape⟩ : ∃ shape, dressedTables.recognize = .ok shape := ⟨_, rfl⟩
  have hread :
      dressedTables.statement = .ok ⟨[⟨"users", some "u"⟩, ⟨"orders", none⟩, ⟨"items", none⟩,
        ⟨"users", some "boss"⟩], [⟨"orders", none, none, none⟩, ⟨"items", none, none, none⟩,
          ⟨"users", some "boss", none, none⟩], [], none⟩ := by decide +kernel
  obtain ⟨s, hs, hnormal, -⟩ := normal_statement hshape
  obtain rfl := Except.ok.inj (hs.symm.trans hread)
  exact ⟨shape, _, hshape, hs, hnormal, rfl, rfl⟩

end JoinGraph
