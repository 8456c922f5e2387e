import JoinGraph.Proofs.FirstOccurrence
import JoinGraph.Proofs.Plan
import JoinGraph.Proofs.WellBuilt

/-!
# What drawing keeps

Drawing goes through tables and aliases, then fields, then relations.  `Sketch.Drawn` is the
invariant of all steps after the first: the table nodes are those of the catalog, every field is
one that the plan draws, no identifier is taken twice, the links of fields go with the fields, and
every link ends at nodes of the right kinds.

The check of a relation for missing tables never fails on such a sketch, so drawing relations is a
fold of `Sketch.drawJoin` over the first relation of each pair of tables.

## Main results

* `drawTables_eq` — what is there after tables and aliases.
* `Drawn.drawField`, `Drawn.drawJoin` — the steps keep the invariant.
* `drawRelations_eq` — drawing relations never fails, and draws the first of each pair of tables.
-/

namespace JoinGraph

namespace Sketch

@[simp] theorem has_iff (s : Sketch) (id : String) :
    s.has id = true ↔ ∃ n ∈ s.nodes, n.id = id := by
  simp [has]

/-! ## Tables and aliases -/

private theorem addNode_eq (s : Sketch) (n : Node) (h : n.id ∉ s.nodes.map Node.id) :
    s.addNode n = { s with nodes := s.nodes ++ [n] } := by
  have hfree : s.has n.id = false := by
    rw [Bool.eq_false_iff, Ne, has_iff]
    rintro ⟨m, hm, heq⟩
    exact h (heq ▸ List.mem_map_of_mem hm)
  simp [addNode, hfree]

private theorem not_mem_of_nodup_append_cons {α : Type} {l m : List α} {a : α}
    (h : (l ++ a :: m).Nodup) : a ∉ l :=
  fun ha => (List.nodup_append.1 h).2.2 a ha a List.mem_cons_self rfl

private theorem drawTables_tables (names : List String) (s : Sketch)
    (h : (s.nodes.map Node.id ++ names.map tableId).Nodup) :
    names.foldl (fun s name => s.addNode (.ofTable name)) s =
      { s with nodes := s.nodes ++ names.map .ofTable } := by
  induction names generalizing s with
  | nil => simp
  | cons name names ih =>
      have hstep := addNode_eq s (.ofTable name) (not_mem_of_nodup_append_cons h)
      rw [List.foldl_cons, hstep, ih _ (by simpa [Node.ofTable] using h)]
      simp

private theorem drawTables_aliases (bindings : List (String × String)) (s : Sketch)
    (h : (s.nodes.map Node.id ++ bindings.map fun b => tableId b.1).Nodup) :
    bindings.foldl drawAlias s =
      { s with
        nodes := s.nodes ++ bindings.map fun b => .ofAlias b.1 b.2
        links := s.links ++ bindings.map fun b => .ofAlias b.1 b.2 } := by
  induction bindings generalizing s with
  | nil => simp
  | cons b bindings ih =>
      have hstep := addNode_eq s (.ofAlias b.1 b.2) (not_mem_of_nodup_append_cons h)
      rw [List.foldl_cons, drawAlias, hstep, addLink, ih _ (by simpa [Node.ofAlias] using h)]
      simp

/-- The nodes of tables and aliases. -/
def tableNodes (c : Catalog) : List Node :=
  c.tables.map .ofTable ++ c.aliases.map fun b => .ofAlias b.1 b.2

private theorem map_id_tableNodes (c : Catalog) :
    (tableNodes c).map Node.id = (c.tables ++ c.aliases.map (·.1)).map tableId := by
  simp [tableNodes, Node.ofTable, Node.ofAlias, Function.comp_def]

theorem nodup_ids_tableNodes {c : Catalog} (h : c.WellFormed) :
    ((tableNodes c).map Node.id).Nodup := by
  rw [map_id_tableNodes]
  refine List.Nodup.map (fun a b hab => (tableId_inj a b).1 hab) ?_
  refine List.nodup_append.2 ⟨h.tables_nodup, h.aliases_nodup, ?_⟩
  rintro t ht a ha rfl
  obtain ⟨b, hb, rfl⟩ := List.mem_map.1 ha
  exact h.disjoint b hb ht

/-- The first step draws every table and every alias of a well-formed catalog. -/
theorem drawTables_eq {c : Catalog} (h : c.WellFormed) :
    empty.drawTables c = ⟨tableNodes c, c.aliases.map fun b => .ofAlias b.1 b.2, []⟩ := by
  have hids := nodup_ids_tableNodes h
  rw [tableNodes, List.map_append, List.map_map, List.map_map] at hids
  have hall : (c.tables.filter fun name => !c.isAlias name) = c.tables :=
    List.filter_eq_self.2 fun t ht => by simp [h.isAlias_of_mem_tables ht]
  have htables := drawTables_tables c.tables empty (by
    simpa [empty, Node.ofTable, Function.comp_def] using (List.nodup_append.1 hids).1)
  rw [drawTables, hall, htables, drawTables_aliases]
  · simp [empty, tableNodes]
  · simpa [empty, Node.ofTable, Node.ofAlias, Function.comp_def] using hids

/-! ## The invariant -/

/-- What every step after the first keeps. -/
structure Drawn (p : Plan) (s : Sketch) : Prop where
  tables : s.nodes.filter (·.kind == .table) = tableNodes p.catalog
  fields : ∀ n ∈ s.nodes, n.kind = .field →
    ∃ table field label, p.Draws table field ∧ n = fieldNode p table field label
  ids_nodup : (s.nodes.map Node.id).Nodup
  owned : s.links.filter (·.kind == .fieldTable) =
    (s.nodes.filter (·.kind == .field)).map Node.ownerLink
  fit : ∀ l ∈ s.links, l.Fits s.nodes

variable {p : Plan} {s : Sketch}

theorem Drawn.mem_of_table (h : Drawn p s) {t : String} (ht : t ∈ p.catalog.tables) :
    Node.ofTable t ∈ s.nodes := by
  have hmem : Node.ofTable t ∈ tableNodes p.catalog :=
    List.mem_append_left _ (List.mem_map_of_mem ht)
  exact (List.mem_filter.1 (h.tables ▸ hmem)).1

theorem Drawn.mem_of_alias (h : Drawn p s) {b : String × String} (hb : b ∈ p.catalog.aliases) :
    Node.ofAlias b.1 b.2 ∈ s.nodes := by
  have hmem : Node.ofAlias b.1 b.2 ∈ tableNodes p.catalog :=
    List.mem_append_right _ (List.mem_map.2 ⟨b, hb, rfl⟩)
  exact (List.mem_filter.1 (h.tables ▸ hmem)).1

/-- A known name has the node of a table or of an alias. -/
theorem Drawn.exists_node (h : Drawn p s) {name : String} (hname : p.catalog.Knows name) :
    ∃ n ∈ s.nodes, n.id = tableId name ∧ n.kind = .table := by
  rcases hname with hname | hname
  · exact ⟨_, h.mem_of_table ((Catalog.isTable_iff _ _).1 hname), rfl, rfl⟩
  · obtain ⟨table, hb⟩ := (Catalog.isAlias_iff _ _).1 hname
    exact ⟨_, h.mem_of_alias hb, rfl, rfl⟩

/-- A node whose identifier is that of a field is a field. -/
theorem Drawn.kind_of_fieldId (h : Drawn p s) {n : Node} (hn : n ∈ s.nodes) {table field : String}
    (hid : n.id = fieldId table field) : n.kind = .field := by
  cases hkind : n.kind with
  | field => rfl
  | table =>
      have hmem : n ∈ tableNodes p.catalog :=
        h.tables ▸ List.mem_filter.2 ⟨hn, by simp [hkind]⟩
      have hids : n.id ∈ (tableNodes p.catalog).map Node.id := List.mem_map_of_mem hmem
      rw [map_id_tableNodes] at hids
      obtain ⟨name, -, heq⟩ := List.mem_map.1 hids
      exact absurd (heq.trans hid) (tableId_ne_fieldId name table field)

/-- After the first step the invariant holds. -/
theorem drawn_drawTables (h : p.catalog.WellFormed) : Drawn p (empty.drawTables p.catalog) := by
  rw [drawTables_eq h]
  have hkind : ∀ n ∈ tableNodes p.catalog, n.kind = .table := by
    intro n hn
    rcases List.mem_append.1 hn with hn | hn <;> obtain ⟨_, -, rfl⟩ := List.mem_map.1 hn <;> rfl
  refine ⟨List.filter_eq_self.2 fun n hn => by simp [hkind n hn], fun n hn hfield => ?_,
    nodup_ids_tableNodes h, ?_, fun l hl => ?_⟩
  · exact absurd (hkind n hn) (by simp [hfield])
  · rw [List.filter_eq_nil_iff.2, List.filter_eq_nil_iff.2, List.map_nil]
    · intro n hn
      simp [hkind n hn]
    · intro l hl
      obtain ⟨b, -, rfl⟩ := List.mem_map.1 hl
      simp [Link.ofAlias]
  · obtain ⟨b, hb, rfl⟩ := List.mem_map.1 hl
    exact ⟨.ofAlias b.1 b.2, List.mem_append_right _ (List.mem_map.2 ⟨b, hb, rfl⟩),
      .ofTable b.2, List.mem_append_left _ (List.mem_map_of_mem (h.targets b hb)),
      rfl, rfl, ⟨rfl, rfl⟩, rfl, rfl⟩

/-! ## Fields -/

theorem drawField_of_has {table field : String} (h : s.has (fieldId table field) = true)
    (label : String) : drawField p s table field label = s := by
  simp [drawField, h]

theorem drawField_of_not_has {table field : String} (h : s.has (fieldId table field) = false)
    (label : String) : drawField p s table field label =
      ⟨s.nodes ++ [fieldNode p table field label], s.links ++ [.ofField table field],
        s.joined⟩ := by
  have hnode : s.has (fieldNode p table field label).id = false := h
  simp [drawField, h, addNode, hnode, addLink]

/-- Drawing a field adds nodes and links at the end, and joins nothing. -/
theorem drawField_extends (p : Plan) (s : Sketch) (table field label : String) :
    s.nodes <+: (drawField p s table field label).nodes ∧
      (drawField p s table field label).joined = s.joined := by
  cases h : s.has (fieldId table field) with
  | true => simp [drawField_of_has h]
  | false => simp [drawField_of_not_has h]

theorem has_drawField (p : Plan) (s : Sketch) (table field label : String) :
    (drawField p s table field label).has (fieldId table field) = true := by
  cases h : s.has (fieldId table field) with
  | true => rw [drawField_of_has h, h]
  | false => simp [drawField_of_not_has h, has, fieldNode, Node.ofField]

theorem Drawn.drawField (h : Drawn p s) (hp : p.WellFormed) {table field : String}
    (hd : p.Draws table field) (label : String) :
    Drawn p (Sketch.drawField p s table field label) := by
  cases hfree : s.has (fieldId table field) with
  | true => rwa [drawField_of_has hfree]
  | false =>
      rw [drawField_of_not_has hfree]
      have hid : fieldId table field ∉ s.nodes.map Node.id := by
        intro hmem
        obtain ⟨n, hn, heq⟩ := List.mem_map.1 hmem
        simp [(has_iff s _).2 ⟨n, hn, heq⟩] at hfree
      have htable := h.mem_of_table (hp.mem_tables_of_draws hd)
      exact
        { tables := by
            rw [List.filter_append, h.tables]
            simp [fieldNode, Node.ofField]
          fields := by
            intro n hn hkind
            rcases List.mem_append.1 hn with hn | hn
            · exact h.fields n hn hkind
            · exact ⟨table, field, label, hd, List.mem_singleton.1 hn⟩
          ids_nodup := by
            rw [List.map_append, List.map_singleton]
            refine List.nodup_append.2 ⟨h.ids_nodup, by simp, ?_⟩
            rintro id hmem id' hid' rfl
            have heq : id = fieldId table field := List.mem_singleton.1 hid'
            exact hid (heq ▸ hmem)
          owned := by
            rw [List.filter_append, List.filter_append, List.map_append, h.owned]
            rfl
          fit := by
            intro l hl
            rcases List.mem_append.1 hl with hl | hl
            · exact (h.fit l hl).append _
            · rw [List.mem_singleton.1 hl]
              exact ⟨fieldNode p table field label, by simp, .ofTable table,
                List.mem_append_left _ htable, rfl, rfl, rfl, rfl⟩ }

/-- The fields drawn before any relation. -/
theorem drawFields_eq (p : Plan) (s : Sketch) :
    s.drawFields p = p.shown.foldl (fun s column =>
      drawField p s column.1 column.2
        (labelOf p.labels (fieldId column.1 column.2) column.2)) s := rfl

private theorem drawFields_run (hp : p.WellFormed) (columns : List (String × String))
    (hcolumns : ∀ c ∈ columns, p.Draws c.1 c.2) (h : Drawn p s) :
    let d := columns.foldl (fun s column => Sketch.drawField p s column.1 column.2
      (labelOf p.labels (fieldId column.1 column.2) column.2)) s
    Drawn p d ∧ s.nodes <+: d.nodes ∧ d.joined = s.joined ∧
      ∀ c ∈ columns, d.has (fieldId c.1 c.2) = true := by
  induction columns generalizing s with
  | nil => exact ⟨h, List.prefix_refl _, rfl, by simp⟩
  | cons column columns ih =>
      have hstep := drawField_extends p s column.1 column.2
        (labelOf p.labels (fieldId column.1 column.2) column.2)
      obtain ⟨hdrawn, hnodes, hjoined, hhas⟩ := ih (fun c hc => hcolumns c (by simp [hc]))
        (h.drawField hp (hcolumns column (by simp)) _)
      refine ⟨hdrawn, hstep.1.trans hnodes, hjoined.trans hstep.2, fun c hc => ?_⟩
      rcases List.mem_cons.1 hc with rfl | hc
      · obtain ⟨n, hn, hid⟩ := (has_iff _ _).1 (has_drawField p s c.1 c.2 _)
        exact (has_iff _ _).2 ⟨n, hnodes.subset hn, hid⟩
      · exact hhas c hc

/-- With the fields drawn, the invariant still holds, nothing is joined, and all of them are
there. -/
theorem drawn_drawFields (hp : p.WellFormed) :
    let d := (empty.drawTables p.catalog).drawFields p
    Drawn p d ∧ d.joined = [] ∧ ∀ c ∈ p.shown, d.has (fieldId c.1 c.2) = true := by
  obtain ⟨hdrawn, -, hjoined, hhas⟩ := drawFields_run hp p.shown (fun _ hc => .inl hc)
    (drawn_drawTables hp.catalog)
  refine ⟨hdrawn, hjoined.trans ?_, hhas⟩
  rw [drawTables_eq hp.catalog]

/-! ## Pairs of joined tables -/

/-- Two pairs are the same exactly if they are without direction. -/
theorem pairOf_eq_iff (a b c d : String) : pairOf a b = pairOf c d ↔ s(a, b) = s(c, d) := by
  have htotal := fun x y : String => String.le_total x y
  have hanti := fun x y : String => @String.le_antisymm x y
  simp only [pairOf, Sym2.eq_iff]
  grind

/-- The two tables of the relation are joined already. -/
def joins (s : Sketch) (r : Relation) : Bool := s.hasJoin r.left.table r.right.table

theorem joins_iff (s : Sketch) (r : Relation) :
    s.joins r = true ↔ pairOf r.left.table r.right.table ∈ s.joined := by
  simp [joins, hasJoin]

end Sketch

/-! ## Relations -/

/-- The link between the tables of a relation. -/
def Relation.tableLink (r : Relation) : Link :=
  .ofJoin .tableJoin (tableId r.left.table) (tableId r.right.table) r.condition r.confidence

/-- The link between the fields of a relation. -/
def Relation.fieldLink (r : Relation) : Link :=
  .ofJoin .fieldJoin (fieldId r.left.table r.left.field) (fieldId r.right.table r.right.field)
    r.condition r.confidence

namespace Sketch

variable {p : Plan} {s : Sketch}

/-- Draws both links of a relation whose tables are not joined yet, and its fields. -/
def drawJoin (p : Plan) (s : Sketch) (r : Relation) : Sketch :=
  let linked := (s.markJoin r.left.table r.right.table).addLink r.tableLink
  let left := drawField p linked r.left.table r.left.field r.left.field
  (drawField p left r.right.table r.right.field r.right.field).addLink r.fieldLink

theorem drawRelation_eq (h : Drawn p s) {r : Relation} (hr : r.Known p.catalog) :
    drawRelation p s r = .ok (if s.joins r then s else drawJoin p s r) := by
  have hleft : s.has (tableId r.left.table) = true :=
    (has_iff s _).2 ⟨_, h.mem_of_table hr.1.table, rfl⟩
  have hright : s.has (tableId r.right.table) = true :=
    (has_iff s _).2 ⟨_, h.mem_of_table hr.2.table, rfl⟩
  simp only [drawRelation, hleft, hright, Bool.not_true, Bool.false_eq_true, if_false, joins]
  by_cases hjoin : s.hasJoin r.left.table r.right.table = true
  · simp only [hjoin, if_true]
  · simp only [hjoin]
    rfl

theorem Drawn.markJoin (h : Drawn p s) (a b : String) : Drawn p (s.markJoin a b) :=
  ⟨h.tables, h.fields, h.ids_nodup, h.owned, h.fit⟩

theorem Drawn.addLink (h : Drawn p s) {l : Link} (hkind : l.kind ≠ .fieldTable)
    (hfit : l.Fits s.nodes) : Drawn p (s.addLink l) where
  tables := h.tables
  fields := h.fields
  ids_nodup := h.ids_nodup
  owned := by
    rw [Sketch.addLink, List.filter_append, h.owned, List.filter_cons_of_neg (by simpa using hkind)]
    simp
  fit := by
    intro l' hl'
    rcases List.mem_append.1 hl' with hl' | hl'
    · exact h.fit l' hl'
    · exact List.mem_singleton.1 hl' ▸ hfit

/-- What drawing a join does: the invariant is kept, nodes are added at the end, the pair is marked,
and both fields are there. -/
theorem Drawn.drawJoin (h : Drawn p s) (hp : p.WellFormed) {r : Relation} (hr : r ∈ p.relations) :
    let d := Sketch.drawJoin p s r
    Drawn p d ∧ s.nodes <+: d.nodes ∧
      d.joined = pairOf r.left.table r.right.table :: s.joined ∧
      d.has (fieldId r.left.table r.left.field) = true ∧
      d.has (fieldId r.right.table r.right.field) = true := by
  let linked := (s.markJoin r.left.table r.right.table).addLink r.tableLink
  let left := Sketch.drawField p linked r.left.table r.left.field r.left.field
  let right := Sketch.drawField p left r.right.table r.right.field r.right.field
  have hlinked : Drawn p linked := by
    refine (h.markJoin _ _).addLink (by simp [Relation.tableLink, Link.ofJoin]) ?_
    exact ⟨_, h.mem_of_table (hp.known r hr).1.table, _, h.mem_of_table (hp.known r hr).2.table,
      rfl, rfl, rfl, rfl⟩
  have hleft : Drawn p left := hlinked.drawField hp (.inr (Plan.relates_left hr)) _
  have hright : Drawn p right := hleft.drawField hp (.inr (Plan.relates_right hr)) _
  obtain ⟨hsub, hjoined⟩ := drawField_extends p linked r.left.table r.left.field r.left.field
  obtain ⟨hsub', hjoined'⟩ := drawField_extends p left r.right.table r.right.field r.right.field
  obtain ⟨a, ha, hida⟩ := (has_iff _ _).1
    (has_drawField p linked r.left.table r.left.field r.left.field)
  obtain ⟨b, hb, hidb⟩ := (has_iff _ _).1
    (has_drawField p left r.right.table r.right.field r.right.field)
  -- The left field stays there while the right one is drawn.
  have ha : a ∈ right.nodes := hsub'.subset ha
  have hfit : r.fieldLink.Fits right.nodes :=
    ⟨a, ha, b, hb, hida, hidb, hright.kind_of_fieldId ha hida, hright.kind_of_fieldId hb hidb⟩
  exact ⟨hright.addLink (by simp [Relation.fieldLink, Link.ofJoin]) hfit, hsub.trans hsub',
    hjoined'.trans hjoined, (has_iff _ _).2 ⟨a, ha, hida⟩, (has_iff _ _).2 ⟨b, hb, hidb⟩⟩

/-- Drawing relations never fails on a drawn sketch, and draws the first of each pair of tables. -/
theorem drawRelations_eq (hp : p.WellFormed) (rs : List Relation) (hrs : ∀ r ∈ rs, r ∈ p.relations)
    (h : Drawn p s) : drawRelations p s rs =
      .ok ((firstsBy Relation.tables (rs.filter fun r => !s.joins r)).foldl (drawJoin p) s) := by
  induction rs generalizing s with
  | nil => rfl
  | cons r rs ih =>
      have hr : r ∈ p.relations := hrs r (by simp)
      have hrest : ∀ r' ∈ rs, r' ∈ p.relations := fun r' hr' => hrs r' (by simp [hr'])
      rw [drawRelations, drawRelation_eq h (hp.known r hr)]
      by_cases hjoin : s.joins r = true
      · simp only [hjoin, if_true]
        rw [ih hrest h, List.filter_cons_of_neg (by simp [hjoin])]
      · simp only [hjoin, Bool.false_eq_true, if_false]
        obtain ⟨hdrawn, -, hjoined, -⟩ := h.drawJoin hp hr
        -- Joined afterwards are the pair of this relation and those that were joined before.
        have hafter : ∀ r', (!(drawJoin p s r).joins r') =
            (decide (r'.tables ≠ r.tables) && !s.joins r') := by
          intro r'
          rw [Bool.eq_iff_iff, Bool.not_eq_true', Bool.and_eq_true, decide_eq_true_eq,
            Bool.not_eq_true', ← Bool.not_eq_true, ← Bool.not_eq_true, joins_iff,
              joins_iff, hjoined,
            List.mem_cons, pairOf_eq_iff, not_or]
          rfl
        rw [ih hrest hdrawn, List.filter_cons_of_pos (by simp [hjoin]), firstsBy_cons,
          List.foldl_cons, ← firstsBy_filter Relation.tables (fun k => decide (k ≠ r.tables)),
          List.filter_filter]
        simp only [hafter]

end Sketch

end JoinGraph
