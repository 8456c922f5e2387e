import JoinGraph.Proofs.AliasJoins
import JoinGraph.Proofs.DrawnAlike
import JoinGraph.Proofs.FieldNodes

/-!
# Joins that are stated again

A join may be stated again behind itself, as it is or with its sides exchanged.  Whatever is made
of the joins in order holds the first of several things: the tables that only joins name, the
fields of each name, the relation of two tables, the target of a field, the join between two
names.  So nothing of this changes by a second statement.

Labels are the exception, since of several labels under one identifier the last holds.  A second
statement gives the labels of the first one again, and they come behind those given in between.
This changes nothing as long as an identifier has one label, and it has two only if two columns
share it.

## Main results

* `Catalog.withJoined_repeated`, `FieldSets.collect_repeated`, `joinTarget?_repeated` — what is
  made of the joins is the same.
* `labelOf_repeated` — so are labels, if an identifier has one.
* `graph_restated` — a graph does not change, apart from the labels of shared identifiers.
-/

namespace JoinGraph

/-- The join with its sides exchanged. -/
def Join.mirror (j : Join) : Join := { j with left := j.right, right := j.left }

namespace WrittenJoin

@[inherit_doc Join.mirror]
def mirror (w : WrittenJoin) : WrittenJoin := ⟨w.right, w.rightColumn, w.left, w.leftColumn⟩

theorem ofJoin?_mirror (j : Join) : ofJoin? j.mirror = (ofJoin? j).map mirror := by
  cases hleft : j.left.bind side? <;> cases hright : j.right.bind side? <;>
    simp [ofJoin?, Join.mirror, mirror, hleft, hright]

theorem names_mirror (w : WrittenJoin) : w.mirror.names = w.names := Sym2.eq_swap

theorem tables_mirror (c : Catalog) (w : WrittenJoin) : w.mirror.tables c = w.tables c :=
  Sym2.eq_swap

/-- Each of the joins `more` is among those in front, as it is or with its sides exchanged. -/
def Repeats (front more : List WrittenJoin) : Prop := ∀ w ∈ more, w ∈ front ∨ w.mirror ∈ front

section Repeats

variable {front more : List WrittenJoin} (h : Repeats front more)

include h

/-- What the sides give in any order is given by the joins in front. -/
theorem Repeats.flatMap_subset {γ : Type} {f : WrittenJoin → List γ} (hf : ∀ w, f w ⊆ f w.mirror) :
    more.flatMap f ⊆ front.flatMap f := by
  intro x hx
  obtain ⟨w, hw, hx⟩ := List.mem_flatMap.1 hx
  rcases h w hw with hw | hw
  · exact List.mem_flatMap.2 ⟨w, hw, hx⟩
  · exact List.mem_flatMap.2 ⟨w.mirror, hw, hf w hx⟩

theorem Repeats.exists_key {β : Type} {key : WrittenJoin → β} (hkey : ∀ w, key w.mirror = key w) :
    ∀ w ∈ more, ∃ v ∈ front, key v = key w := by
  intro w hw
  rcases h w hw with hw | hw
  · exact ⟨w, hw, rfl⟩
  · exact ⟨w.mirror, hw, hkey w⟩

end Repeats

end WrittenJoin

open WrittenJoin (Repeats)

/-! ## Tables -/

/-- Joins that are stated again name no further table. -/
theorem Catalog.withJoined_repeated {front more : List WrittenJoin} (h : Repeats front more)
    (c : Catalog) (back : List WrittenJoin) :
    c.withJoined (front ++ (more ++ back)) = c.withJoined (front ++ back) := by
  have hnames : qualifiers more ⊆ qualifiers front :=
    h.flatMap_subset fun w => by simp [WrittenJoin.mirror]
  have happend : ∀ joins joins' : List WrittenJoin,
      qualifiers (joins ++ joins') = qualifiers joins ++ qualifiers joins' := fun _ _ =>
    List.flatMap_append
  rw [withJoined_eq, withJoined_eq, happend, happend, happend, List.filter_append,
    List.filter_append, List.filter_append]
  congr 2
  exact firstsBy_repeated id (fun q hq => ⟨q, List.filter_subset _ hnames hq, rfl⟩) _

/-! ## Fields -/

namespace FieldSets

/-- The entries under both names of the table of a column have its field. -/
def Covers (sets : FieldSets) (own : OwnedColumn) : Prop :=
  ∀ entry ∈ sets, entry.1 = own.table ∨ entry.1 = own.qualifier → own.field ∈ entry.2

theorem covers_add (sets : FieldSets) (own : OwnedColumn) : (sets.add own).Covers own := by
  rw [Covers, add_eq, List.forall_mem_map]
  intro entry _
  split
  · exact fun _ => (mem_insertField _ _ _).2 (.inr rfl)
  · next hother => exact fun hname => absurd hname hother

theorem Covers.add {sets : FieldSets} {own : OwnedColumn} (h : sets.Covers own)
    (other : OwnedColumn) : (sets.add other).Covers own := by
  rw [Covers, add_eq, List.forall_mem_map]
  intro entry hentry
  split
  · exact fun hname => (mem_insertField _ _ _).2 (.inl (h entry hentry hname))
  · exact h entry hentry

/-- A column that is there is passed over. -/
theorem Covers.add_eq_self {sets : FieldSets} {own : OwnedColumn} (h : sets.Covers own) :
    sets.add own = sets := by
  rw [add_eq]
  refine (List.map_congr_left fun entry hentry => ?_).trans (List.map_id sets)
  split
  · next hname => simp [insertField, h entry hentry hname]
  · rfl

/-- Columns that were collected before make no difference. -/
theorem collect_repeated (c : Catalog) {front more : List OwnedColumn} (h : more ⊆ front)
    (back : List OwnedColumn) : collect c (front ++ (more ++ back)) = collect c (front ++ back) :=
  foldl_repeated covers_add (fun _ _ other hcovers => hcovers.add other)
    (fun _ _ hcovers => hcovers.add_eq_self) h back (ofCatalog c)

end FieldSets

/-- Joins that are stated again show no further column. -/
theorem collect_ownedColumns_repeated {front more : List WrittenJoin} (h : Repeats front more)
    (c : Catalog) (back : List WrittenJoin) (s : Statement) :
    FieldSets.collect c (ownedColumns c (front ++ (more ++ back)) s) =
      FieldSets.collect c (ownedColumns c (front ++ back) s) := by
  let sides := fun w : WrittenJoin => [(⟨w.left, c.resolve w.left, w.leftColumn⟩ : OwnedColumn),
    ⟨w.right, c.resolve w.right, w.rightColumn⟩]
  have hcolumns : more.flatMap sides ⊆ front.flatMap sides :=
    h.flatMap_subset fun w => by simp [sides, WrittenJoin.mirror]
  simp only [ownedColumns, List.flatMap_append, List.append_assoc]
  exact FieldSets.collect_repeated c hcolumns _

/-! ## Relations -/

/-- The relations of two tables are led by the same one. -/
theorem firstsBy_tables_repeated {front more : List WrittenJoin} (h : Repeats front more)
    (c : Catalog) (back : List WrittenJoin) :
    firstsBy Relation.tables ((front ++ (more ++ back)).map (Relation.ofWritten c)) =
      firstsBy Relation.tables ((front ++ back).map (Relation.ofWritten c)) := by
  have hkey : (fun w => (Relation.ofWritten c w).tables) = WrittenJoin.tables c := rfl
  rw [firstsBy_map, firstsBy_map, hkey,
    firstsBy_repeated _ (h.exists_key (WrittenJoin.tables_mirror c))]

theorem joinTarget?_append (rs rs' : List Relation) (table field : String) :
    joinTarget? (rs ++ rs') table field =
      (joinTarget? rs table field).or (joinTarget? rs' table field) := by
  simp [joinTarget?, List.find?_append]

/-- A field keeps its target. -/
theorem joinTarget?_repeated {front more : List WrittenJoin} (h : Repeats front more) (c : Catalog)
    (back : List WrittenJoin) (table field : String) :
    joinTarget? ((front ++ (more ++ back)).map (Relation.ofWritten c)) table field =
      joinTarget? ((front ++ back).map (Relation.ofWritten c)) table field := by
  rw [List.map_append, List.map_append, List.map_append, joinTarget?_append, joinTarget?_append,
    joinTarget?_append]
  cases hfront : joinTarget? (front.map (Relation.ofWritten c)) table field with
  | some target => rfl
  | none =>
      -- An end of a relation that is stated again is one of a relation in front.
      have hmore : joinTarget? (more.map (Relation.ofWritten c)) table field = none := by
        rw [← Option.not_isSome_iff_eq_none, isSome_joinTarget?_iff]
        rintro ⟨r, hr, hends⟩
        obtain ⟨w, hw, rfl⟩ := List.mem_map.1 hr
        have hnot := (isSome_joinTarget?_iff (front.map (Relation.ofWritten c)) table field).2
        rw [hfront] at hnot
        rcases h w hw with hw | hw
        · exact absurd (hnot ⟨_, List.mem_map_of_mem hw, hends⟩) Bool.false_ne_true
        · exact absurd (hnot ⟨_, List.mem_map_of_mem hw, hends.symm⟩) Bool.false_ne_true
      rw [hmore]
      rfl

/-! ## Labels -/

/-- An identifier that has one label keeps it. -/
theorem labelOf_repeated {front more : List (String × String)} (h : more ⊆ front)
    (back : List (String × String)) {id : String}
    (hone : ∀ e ∈ front, ∀ e' ∈ front, e.1 = id → e'.1 = id → e = e') (field : String) :
    labelOf (front ++ (more ++ back)) id field = labelOf (front ++ back) id field := by
  have hlast : (more.reverse.find? (·.1 == id)).or (front.reverse.find? (·.1 == id)) =
      front.reverse.find? (·.1 == id) := by
    cases hmore : more.reverse.find? (·.1 == id) with
    | none => rfl
    | some e =>
        obtain ⟨he, rfl⟩ := mem_of_find?_key hmore
        have he : e ∈ front := h (List.mem_reverse.1 he)
        obtain ⟨e', hfront⟩ := exists_find?_key (List.mem_reverse.2 he)
        obtain ⟨he', hid⟩ := mem_of_find?_key hfront
        rw [hfront, hone e he e' (List.mem_reverse.1 he') rfl hid]
        rfl
  simp only [labelOf, List.reverse_append, List.append_assoc, List.find?_append, hlast]

/-- The labels that complete joins give. -/
def joinLabels (c : Catalog) (joins : List WrittenJoin) : List (String × String) :=
  joins.flatMap fun w =>
    [Relation.endpoint c w.left w.leftColumn, Relation.endpoint c w.right w.rightColumn].filterMap
      Endpoint.label?

/-- The labels of joins stand in front of those of projected columns. -/
theorem fieldLabels_ofWritten (c : Catalog) (joins : List WrittenJoin) (s : Statement) :
    fieldLabels c (joins.map (Relation.ofWritten c)) s = joinLabels c joins ++
      fieldLabels c [] s := by
  rw [fieldLabels, List.flatMap_map]
  rfl

theorem joinLabels_subset {front more : List WrittenJoin} (h : Repeats front more) (c : Catalog) :
    joinLabels c more ⊆ joinLabels c front := by
  refine h.flatMap_subset fun w e he => ?_
  simp only [WrittenJoin.mirror, List.mem_filterMap, List.mem_pair] at he ⊢
  obtain ⟨a, ha, hlabel⟩ := he
  exact ⟨a, ha.symm, hlabel⟩

/-! ## Statements -/

namespace Statement

/-- The statement with other joins. -/
def withJoins (s : Statement) (joins : List Join) : Statement := { s with joins := joins }

/-- A complete join names the column by an alias. -/
def JoinsByAlias (s : Statement) (table field : String) : Prop :=
  ∃ w ∈ completeJoins s.joins, (s.Binds w.left table ∧ w.leftColumn = field) ∨
    (s.Binds w.right table ∧ w.rightColumn = field)

/-- Two different columns that complete joins name by aliases share the identifier. -/
def Confuses (s : Statement) (id : String) : Prop :=
  ∃ t f t' f', s.JoinsByAlias t f ∧ s.JoinsByAlias t' f' ∧ (t, f) ≠ (t', f') ∧
    fieldId t f = id ∧ fieldId t' f' = id

end Statement

/-- Tables without dots in their names keep the identifiers of all columns apart. -/
theorem not_confuses_of_dotFree {s : Statement} (h : s.DotFree) (id : String) :
    ¬ s.Confuses id := by
  rintro ⟨t, f, t', f', hjoins, hjoins', hne, rfl, hid⟩
  have hdot : ∀ t f, s.JoinsByAlias t f → '.' ∉ t.toList := by
    have htable : ∀ q t, s.Binds q t → t ∈ s.catalog.tables := fun q t hbinds =>
      (wellFormed_catalog s).targets _ ((mem_aliases_catalog_iff s q t).2 hbinds)
    rintro t f ⟨w, -, ⟨hbinds, -⟩ | ⟨hbinds, -⟩⟩ <;>
      exact dot_not_mem_of_dotFree h (htable _ _ hbinds)
  obtain ⟨rfl, rfl⟩ := fieldId_inj_of_no_dot (hdot _ _ hjoins') (hdot _ _ hjoins) hid
  exact hne rfl

/-- Joins label the columns that they name by aliases. -/
theorem exists_of_mem_joinLabels {s : Statement} {e : String × String}
    (he : e ∈ joinLabels s.catalog (completeJoins s.joins)) : ∃ table field,
      s.JoinsByAlias table field ∧
        e = (fieldId table field, field ++ " (" ++ table ++ "." ++ field ++ ")") := by
  have hlabel : ∀ q column, (Relation.endpoint s.catalog q column).label? = some e →
      s.Binds q (s.catalog.resolve q) ∧ e = (fieldId (s.catalog.resolve q) column,
        column ++ " (" ++ s.catalog.resolve q ++ "." ++ column ++ ")") := by
    intro q column hq
    simp only [Endpoint.label?, Relation.endpoint] at hq
    split at hq
    · simp at hq
    · next hne =>
        exact ⟨(mem_aliases_catalog_iff s _ _).1 (Catalog.mem_aliases_of_resolve_ne hne),
          (Option.some.inj hq).symm⟩
  obtain ⟨w, hw, he⟩ := List.mem_flatMap.1 he
  obtain ⟨a, ha, hsome⟩ := List.mem_filterMap.1 he
  rcases List.mem_pair.1 ha with rfl | rfl
  · obtain ⟨hbinds, heq⟩ := hlabel _ _ hsome
    exact ⟨_, _, ⟨w, hw, .inl ⟨hbinds, rfl⟩⟩, heq⟩
  · obtain ⟨hbinds, heq⟩ := hlabel _ _ hsome
    exact ⟨_, _, ⟨w, hw, .inr ⟨hbinds, rfl⟩⟩, heq⟩

/-- The complete joins are those of the statement, some of them stated again behind themselves. -/
structure Statement.Restates (s : Statement) (joins : List Join)
    (front more back : List WrittenJoin) :
    Prop where
  before : completeJoins s.joins = front ++ back
  after : completeJoins (s.withJoins joins).joins = front ++ (more ++ back)
  repeats : Repeats front more
  ne_nil : front ≠ []

namespace Statement.Restates

variable {s : Statement} {joins : List Join} {front more back : List WrittenJoin}

section Plans

variable (h : s.Restates joins front more back)

include h

theorem catalog_eq : (s.withJoins joins).catalog = s.catalog := by
  rw [Statement.catalog, Statement.catalog, h.before, ← Catalog.withJoined_repeated h.repeats,
    ← h.after]
  rfl

theorem relations_before (o : Options) :
    (s.plan o).relations = (front ++ back).map (Relation.ofWritten s.catalog) := by
  rw [relations_plan, h.before, relationsOf_of_ne_nil _ (by simp [h.ne_nil])]

theorem relations_after (o : Options) : ((s.withJoins joins).plan o).relations =
    (front ++ (more ++ back)).map (Relation.ofWritten s.catalog) := by
  rw [relations_plan, h.after, h.catalog_eq, relationsOf_of_ne_nil _ (by simp [h.ne_nil])]

theorem fields_eq (o : Options) : ((s.withJoins joins).plan o).fields = (s.plan o).fields := by
  rw [fields_plan, fields_plan, h.after, h.catalog_eq, h.before,
    collect_ownedColumns_repeated h.repeats s.catalog back]
  rfl

theorem shown_eq (o : Options) : ((s.withJoins joins).plan o).shown = (s.plan o).shown := by
  rw [Plan.shown, h.fields_eq, catalog_plan, h.catalog_eq]
  rfl

theorem joinTarget?_eq (o : Options) (table field : String) :
    joinTarget? ((s.withJoins joins).plan o).relations table field =
      joinTarget? (s.plan o).relations table field := by
  rw [h.relations_before, h.relations_after, joinTarget?_repeated h.repeats]

/-- A field with the same label is the same. -/
theorem fieldNode_eq (o : Options) (table field label : String) :
    Sketch.fieldNode ((s.withJoins joins).plan o) table field label =
      Sketch.fieldNode (s.plan o) table field label := by
  rw [Sketch.fieldNode, h.joinTarget?_eq]
  rfl

/-- A label that changes is one of an identifier that two columns share. -/
theorem confuses_of_labelOf_ne {o : Options} {id field : String}
    (hne : labelOf ((s.withJoins joins).plan o).labels id field ≠
      labelOf (s.plan o).labels id field) :
    s.Confuses id := by
  have happend : ∀ l l' : List WrittenJoin,
      joinLabels s.catalog (l ++ l') = joinLabels s.catalog l ++ joinLabels s.catalog l' :=
        fun _ _ =>
    List.flatMap_append
  have hprojected : fieldLabels s.catalog [] (s.withJoins joins) = fieldLabels s.catalog [] s := rfl
  rw [labels_plan, labels_plan, h.relations_before, h.relations_after, h.catalog_eq,
    fieldLabels_ofWritten,
    fieldLabels_ofWritten, happend, happend, happend, List.append_assoc, List.append_assoc,
    List.append_assoc, hprojected] at hne
  by_contra hone
  refine hne (labelOf_repeated (joinLabels_subset h.repeats _) _ (fun e he e' he' hid hid' => ?_) _)
  have hmem : joinLabels s.catalog front ⊆ joinLabels s.catalog (completeJoins s.joins) := by
    rw [h.before, happend]
    exact List.subset_append_left _ _
  obtain ⟨t, f, hjoin, rfl⟩ := exists_of_mem_joinLabels (hmem he)
  obtain ⟨t', f', hjoin', rfl⟩ := exists_of_mem_joinLabels (hmem he')
  by_contra hlabel
  refine hone ⟨t, f, t', f', hjoin, hjoin', fun heq => hlabel ?_, hid, hid'⟩
  obtain ⟨rfl, rfl⟩ := Prod.mk.inj heq
  rfl

theorem aliasJoins_eq : (s.withJoins joins).aliasJoins = s.aliasJoins := by
  rw [Statement.aliasJoins, Statement.aliasJoins, h.after, h.catalog_eq, h.before,
    List.filter_append, List.filter_append, List.filter_append]
  refine firstsBy_repeated _ (fun w hw => ?_) _
  obtain ⟨hw, hjoins⟩ := List.mem_filter.1 hw
  obtain ⟨v, hv, hnames⟩ := h.repeats.exists_key WrittenJoin.names_mirror w hw
  exact ⟨v, List.mem_filter.2
    ⟨hv, decide_eq_true ((of_decide_eq_true hjoins).of_names hnames)⟩, hnames⟩

end Plans

end Statement.Restates

/-! ## Graphs -/

/-- The second node is the first one, or two columns share its identifier and it has another
label. -/
def Node.SameButLabel (s : Statement) (n n' : Node) : Prop :=
  n' = { n with name := n'.name } ∧ (n'.name ≠ n.name → s.Confuses n.id)

theorem Node.SameButLabel.refl (s : Statement) (n : Node) : n.SameButLabel s n :=
  ⟨rfl, fun h => absurd rfl h⟩

theorem Node.SameButLabel.id_eq {s : Statement} {n n' : Node} (h : n.SameButLabel s n') :
    n.id = n'.id := by
  rw [h.1]

namespace Statement.Restates

variable {s : Statement} {joins : List Join} {front more back : List WrittenJoin}
  (h : s.Restates joins front more back)

include h

/-- Both statements are drawn in step. -/
theorem alike_joined (o : Options) : Sketch.Alike (Node.SameButLabel s) (s.plan o).joined
    ((s.withJoins joins).plan o).joined := by
  have hfirst : firstsBy Relation.tables (s.plan o).relations =
      firstsBy Relation.tables ((s.withJoins joins).plan o).relations := by
    rw [h.relations_before, h.relations_after, firstsBy_tables_repeated h.repeats]
  refine Plan.alike_joined (fun _ _ => Node.SameButLabel.id_eq) (Node.SameButLabel.refl s)
    h.catalog_eq.symm (h.shown_eq o).symm hfirst (fun table field => ?_) fun table field => ?_
  · rw [h.fieldNode_eq]
    exact ⟨rfl, h.confuses_of_labelOf_ne⟩
  · rw [h.fieldNode_eq]
    exact .refl s _

/-- A drawing changes by the labels of shared identifiers. -/
theorem drawnGraph_sameButLabels (o : Options) :
    let g := s.drawnGraph o
    let g' := (s.withJoins joins).drawnGraph o
    g' = { g with nodes := g'.nodes } ∧ List.Forall₂ (Node.SameButLabel s) g.nodes g'.nodes := by
  intro g g'
  have hp := wellFormed_plan s o
  have hp' := wellFormed_plan (s.withJoins joins) o
  have halike := h.alike_joined o
  have hlinks : g'.links = g.links := by
    have hbehind : ((s.withJoins joins).plan o).aliasLinks = (s.plan o).aliasLinks := by
      rw [aliasLinks_plan, aliasLinks_plan, h.aliasJoins_eq]
    exact (Plan.links_drawing hp' o).trans
      ((congrArg₂ _ halike.links.symm (by rw [hbehind])).trans (Plan.links_drawing hp o).symm)
  have haliases : g'.aliases = g.aliases :=
    congrArg (fun c : Catalog => AliasMap.ofList c.aliases) h.catalog_eq
  have hnodes : List.Forall₂ (Node.SameButLabel s) g.nodes g'.nodes := by
    have hbefore : g.nodes = (s.plan o).joined.nodes := Plan.nodes_drawing hp o
    have hafter : g'.nodes = ((s.withJoins joins).plan o).joined.nodes := Plan.nodes_drawing hp' o
    rw [hbefore, hafter]
    exact halike.nodes
  refine ⟨?_, hnodes⟩
  rw [← hlinks, ← haliases]
  rfl

end Statement.Restates

/-- Joins that are not complete do not come into a graph. -/
theorem graph_withJoins_of_eq {s : Statement} {joins : List Join}
    (h : completeJoins joins = completeJoins s.joins) (o : Options) :
    (s.withJoins joins).graph o = s.graph o := by
  have hplan : ∀ c, Plan.ofStatement c (s.withJoins joins) o = Plan.ofStatement c s o := fun c => by
    have hjoins : completeJoins (s.withJoins joins).joins = completeJoins s.joins := h
    rw [Plan.ofStatement, hjoins]
    rfl
  have hdraw : (s.withJoins joins).draw o = s.draw o := by
    simp only [Statement.draw, hplan]
    rfl
  rw [Statement.graph, hdraw, Statement.graph]

/-- A statement whose joins are stated again has the same graph, but for labels. -/
theorem Statement.Restates.graph_sameButLabels {s : Statement} {joins : List Join}
    {front more back : List WrittenJoin} (h : s.Restates joins front more back) (o : Options) :
    let g := s.graph o
    let g' := (s.withJoins joins).graph o
    g' = { g with nodes := g'.nodes } ∧ List.Forall₂ (Node.SameButLabel s) g.nodes g'.nodes := by
  have hsame : ∀ g : Graph, g = { g with nodes := g.nodes } ∧
      List.Forall₂ (Node.SameButLabel s) g.nodes g.nodes := fun g =>
    ⟨rfl, List.forall₂_same.2 fun n _ => .refl s n⟩
  rcases exists_firstBlank_or s.tables with ⟨i, hi⟩ | hnamed
  · have hblank : FirstBlank (s.withJoins joins).tables i := hi
    rw [Statement.graph, Statement.graph, draw_of_firstBlank hi, draw_of_firstBlank hblank]
    exact hsame _
  · have hnamed' : ∀ t ∈ (s.withJoins joins).tables, Text.trim t.name ≠ "" := hnamed
    rw [graph_of_named hnamed, graph_of_named hnamed', Statement.namedGraph, Statement.namedGraph,
      h.catalog_eq]
    split
    · exact hsame _
    · exact h.drawnGraph_sameButLabels o

/-- Behind a join, the list of complete joins goes on with the same join again, or not at all. -/
theorem repeats_of_restated {front : List Join} {j restated : Join} (hj : j ∈ front)
    (hrestated : restated = j ∨ restated = j.mirror) :
    Repeats (completeJoins front) (completeJoins [restated]) := by
  intro w hw
  obtain ⟨j', hj', hw⟩ := List.mem_filterMap.1 hw
  rw [List.mem_singleton.1 hj'] at hw
  rcases hrestated with rfl | rfl
  · exact .inl (List.mem_filterMap.2 ⟨restated, hj, hw⟩)
  · rw [WrittenJoin.ofJoin?_mirror] at hw
    obtain ⟨v, hv, rfl⟩ := Option.map_eq_some_iff.1 hw
    exact .inr (List.mem_filterMap.2 ⟨j, hj, hv⟩)

/-- Stating a join again behind itself, as it is or with its sides exchanged, leaves the graph as
it is: its links, aliases and nodes, apart from the label of a field whose identifier two
different columns share that complete joins name by aliases.  No identifier is shared, and nothing
changes at all, if no table has a dot in its name. -/
theorem graph_restated (s : Statement) (o : Options) {front back : List Join} {j restated : Join}
    (hjoins : s.joins = front ++ back) (hj : j ∈ front)
    (hrestated : restated = j ∨ restated = j.mirror) :
    let g := s.graph o
    let g' := (s.withJoins (front ++ restated :: back)).graph o
    g' = { g with nodes := g'.nodes } ∧
      List.Forall₂ (fun n n' => n' = { n with name := n'.name } ∧
        (n'.name ≠ n.name → s.Confuses n.id))
        g.nodes g'.nodes ∧
      ((∀ id, ¬ s.Confuses id) → g' = g) ∧ (s.DotFree → ∀ id, ¬ s.Confuses id) := by
  intro g g'
  have hbefore : completeJoins s.joins = completeJoins front ++ completeJoins back := by
    rw [hjoins, completeJoins, List.filterMap_append]
    rfl
  have hafter : completeJoins (front ++ restated :: back) =
      completeJoins front ++ (completeJoins [restated] ++ completeJoins back) := by
    simp only [completeJoins, ← List.filterMap_append, List.singleton_append]
  have hrepeats := repeats_of_restated hj hrestated
  have hsame : g' = { g with nodes := g'.nodes } ∧
      List.Forall₂ (Node.SameButLabel s) g.nodes g'.nodes := by
    by_cases hmore : completeJoins [restated] = []
    · have hgraph : g' = g :=
        graph_withJoins_of_eq (by rw [hafter, hbefore, hmore, List.nil_append]) o
      rw [hgraph]
      exact ⟨rfl, List.forall₂_same.2 fun n _ => .refl s n⟩
    · have hne : completeJoins front ≠ [] := by
        intro hnil
        obtain ⟨w, hw⟩ := List.exists_mem_of_ne_nil _ hmore
        simpa [hnil] using hrepeats w hw
      exact Statement.Restates.graph_sameButLabels ⟨hbefore, hafter, hrepeats, hne⟩ o
  obtain ⟨hrest, hnodes⟩ := hsame
  refine ⟨hrest, hnodes, fun hnone => ?_, fun hdots => not_confuses_of_dotFree hdots⟩
  have heq : g.nodes = g'.nodes := by
    rw [← List.forall₂_eq_eq_eq]
    refine hnodes.imp fun n n' hn => ?_
    have hname : n'.name = n.name := not_not.1 fun hne => hnone _ (hn.2 hne)
    rw [hn.1, hname]
  rw [hrest, ← heq]

/-- A join between two aliases makes no difference where it is stated again between other joins,
with its sides exchanged. -/
theorem graph_restated_aliased :
    let j : Join := ⟨"orders", none, some ⟨some "u", "id"⟩, some ⟨some " o", "user_id"⟩⟩
    let front := aliasedJoins.joins.take 3
    let back := aliasedJoins.joins.drop 3
    aliasedJoins.joins = front ++ back ∧ j ∈ front ∧ j.mirror ∉ aliasedJoins.joins ∧
      aliasedJoins.DotFree ∧
      (aliasedJoins.withJoins (front ++ j.mirror :: back)).graph .default =
        aliasedJoins.graph .default := by
  intro j front back
  have hjoins : aliasedJoins.joins = front ++ back := by decide
  have hj : j ∈ front := by decide
  have hdots : aliasedJoins.DotFree := by
    refine ⟨by decide, fun j hj c hc q hq => ?_⟩
    have hall : ∀ j ∈ aliasedJoins.joins, ∀ c ∈ j.left.toList ++ j.right.toList,
        ∀ q ∈ c.table.toList, '.' ∉ q.toList := by decide
    exact hall j hj c (by simpa using hc) q (by simpa using hq)
  obtain ⟨-, -, hsame, hapart⟩ := graph_restated aliasedJoins .default hjoins hj (.inr rfl)
  exact ⟨hjoins, hj, by decide, hdots, hsame (hapart hdots)⟩

/-- A join of two columns that share an identifier, both named by aliases. -/
def sharedJoin : Statement where
  tables := [⟨"sales", some "s"⟩, ⟨"sales.eu", some "e"⟩]
  joins := [⟨"sales.eu", some "e", some ⟨some "e", "total"⟩, some ⟨some "s", "eu.total"⟩⟩]
  projected := []
  condition := none

/-- Stated again with its sides exchanged, the join gives the one field of the graph, which
belongs to the first table, the label of a column of the second. -/
theorem graph_restated_shared :
    let j : Join := ⟨"sales.eu", some "e", some ⟨some "e", "total"⟩, some ⟨some "s", "eu.total"⟩⟩
    let g := sharedJoin.graph .default
    let g' := (sharedJoin.withJoins [j, j.mirror]).graph .default
    sharedJoin.joins = [j] ∧ g ≠ g' ∧ g.isDiagnostic = false ∧
      g.fields.map Node.column = [("sales", "eu.total")] ∧
      g.fields.map Node.name = ["eu.total (sales.eu.total)"] ∧
      g'.fields.map Node.column = [("sales", "eu.total")] ∧
      g'.fields.map Node.name = ["total (sales.eu.total)"] := by
  decide +kernel

end JoinGraph
