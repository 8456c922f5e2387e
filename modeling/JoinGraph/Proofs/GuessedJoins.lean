import JoinGraph.Proofs.AliasJoins
import Mathlib.Logic.Relation

/-!
# Guessed joins

Without a complete join, each two tables in a row are joined by a guess.  No two guesses join the
same tables, and no table is an alias, so none is left out and the guesses connect all tables.
Guesses and joins that were read exclude each other: a graph has joins of one kind only.

## Main results

* `confidence_of_mem_links` — whether the joins of a graph were read or guessed.
* `guessedJoins_graph` — the joins of a graph without complete joins.
-/

namespace JoinGraph

/-! ## Chains -/

/-- Elements of a list are connected by what relates each to the next. -/
theorem eqvGen_of_consecutivePairs {α : Type} {r : α → α → Prop} {l : List α}
    (h : ∀ p ∈ l.consecutivePairs, r p.1 p.2) :
    ∀ a ∈ l, ∀ b ∈ l, Relation.EqvGen r a b := by
  -- It is enough to connect each element to the first one.
  suffices hfirst : ∀ x ∈ l.head?, ∀ a ∈ l, Relation.EqvGen r x a by
    intro a ha b hb
    cases l with
    | nil => cases ha
    | cons x l => exact .trans _ _ _ (.symm _ _ (hfirst x rfl a ha)) (hfirst x rfl b hb)
  induction l with
  | nil => simp
  | cons x l ih =>
      intro x' hx' a ha
      obtain rfl : x = x' := Option.some.inj hx'
      rcases List.mem_cons.1 ha with rfl | ha
      · exact .refl _
      · cases l with
        | nil => cases ha
        | cons y l =>
            have hstep : r x y := h (x, y) List.mem_cons_self
            exact .trans _ _ _ (.rel _ _ hstep)
              (ih (fun p hp => h p (List.mem_cons_of_mem _ hp)) y rfl a ha)

/-! ## Read and guessed joins -/

/-- Without a complete join all relations are guesses, and otherwise none is. -/
theorem confidence_of_mem_relationsOf {c : Catalog} (h : c.WellFormed) {joins : List WrittenJoin}
    {o : Options} {r : Relation} (hr : r ∈ relationsOf c joins o) :
    r.confidence = if joins = [] then .inferred else .parsed := by
  by_cases hjoins : joins = []
  · subst hjoins
    rw [relationsOf_nil] at hr
    split at hr
    · rw [guesses_eq h] at hr
      obtain ⟨p, -, rfl⟩ := List.mem_map.1 hr
      rfl
    · cases hr
  · rw [relationsOf_of_ne_nil c hjoins] at hr
    obtain ⟨w, -, rfl⟩ := List.mem_map.1 hr
    simp [hjoins, Relation.ofWritten]

/-- Without a complete join there are no joins between aliases. -/
theorem aliasJoins_of_none {s : Statement} (h : completeJoins s.joins = []) :
    s.aliasJoins = [] := by
  simp [Statement.aliasJoins, h]

/-- The joins of a drawing are guesses if no join is complete, and were read otherwise. -/
theorem confidence_of_mem_links {s : Statement} {o : Options} {l : Link}
    (hl : l ∈ (s.drawnGraph o).links) {confidence : Confidence}
    (hconfidence : l.confidence? = some confidence) :
    confidence = if completeJoins s.joins = [] then .inferred else .parsed := by
  have hp := wellFormed_plan s o
  have hlinks : (s.drawnGraph o).links = _ := Plan.links_drawing hp o
  rw [hlinks, List.mem_append] at hl
  rcases hl with hl | hl
  · have hmem : l ∈ (s.plan o).joined.links.filter fun l => l.confidence?.isSome :=
      List.mem_filter.2 ⟨hl, by simp [hconfidence]⟩
    rw [Plan.filter_links_joined hp _ fun _ _ => rfl, List.mem_append] at hmem
    rcases hmem with hmem | hmem
    · obtain ⟨b, -, rfl⟩ := List.mem_map.1 (List.mem_filter.1 hmem).1
      cases hconfidence
    · obtain ⟨r, hr, hmem⟩ := List.mem_flatMap.1 (List.mem_filter.1 hmem).1
      have hread := confidence_of_mem_relationsOf (wellFormed_catalog s)
        ((firstsBy_sublist _ _).subset hr)
      rcases List.mem_pair.1 hmem with rfl | rfl <;> exact Option.some.inj hconfidence ▸ hread
  · split at hl
    · rw [aliasLinks_plan] at hl
      obtain ⟨w, hw, rfl⟩ := List.mem_map.1 hl
      have hjoins : completeJoins s.joins ≠ [] := fun hnone => by
        simp [aliasJoins_of_none hnone] at hw
      rw [if_neg hjoins]
      exact (Option.some.inj hconfidence).symm
    · cases hl

/-- No graph has a guessed join beside one that was read. -/
theorem confidence_eq_of_mem_links (s : Statement) (o : Options) {l l' : Link}
    {confidence confidence' : Confidence} (hl : l ∈ (s.graph o).links)
    (hl' : l' ∈ (s.graph o).links) (hconfidence : l.confidence? = some confidence)
    (hconfidence' : l'.confidence? = some confidence') : confidence = confidence' := by
  have hsingle : ∀ (table field text : String) (isDiagnostic : Bool),
      l ∉ (Graph.ofSingleField table field text isDiagnostic).links := by
    intro table field text isDiagnostic hmem
    obtain rfl := List.mem_singleton.1 hmem
    cases hconfidence
  rcases exists_firstBlank_or s.tables with ⟨i, hi⟩ | hnamed
  · rw [Statement.graph, draw_of_firstBlank hi o] at hl
    exact absurd hl (hsingle _ _ _ _)
  · rw [graph_of_named hnamed, Statement.namedGraph] at hl hl'
    split at hl
    · exact absurd hl (hsingle _ _ _ _)
    · next htables =>
        rw [if_neg htables] at hl'
        exact (confidence_of_mem_links hl hconfidence).trans
          (confidence_of_mem_links hl' hconfidence').symm

/-! ## The joins of a graph -/

/-- Without a complete join the links of a graph, apart from those of fields and aliases, are
those of the guesses. -/
theorem filter_links_guessed {s : Statement} (hnone : completeJoins s.joins = []) {o : Options}
    (ho : o.infersJoins = true) (htables : s.catalog.tables ≠ []) (q : Link → Bool)
    (hfield : ∀ t f, q (.ofField t f) = false)
    (halias : ∀ name table, q (.ofAlias name table) = false) :
    (s.namedGraph o).links.filter q = (s.catalog.tables.consecutivePairs.flatMap fun p =>
      [(Relation.guess p.1 p.2).tableLink, (Relation.guess p.1 p.2).fieldLink]).filter q := by
  have hwf := wellFormed_catalog s
  have hlinks : (s.drawnGraph o).links = (s.plan o).joined.links := by
    rw [show (s.drawnGraph o).links = _ from Plan.links_drawing (wellFormed_plan s o) o,
      aliasLinks_plan, aliasJoins_of_none hnone]
    simp
  have hfirst : firstsBy Relation.tables (s.plan o).relations =
      s.catalog.tables.consecutivePairs.map fun p => Relation.guess p.1 p.2 := by
    rw [relations_plan, hnone, firstsBy_relationsOf_nil hwf, relationsOf_nil, if_pos ho,
      guesses_eq hwf]
  have hbound : (s.catalog.aliases.map fun b => Link.ofAlias b.1 b.2).filter q = [] := by
    refine List.filter_eq_nil_iff.2 fun l hl => ?_
    obtain ⟨b, -, rfl⟩ := List.mem_map.1 hl
    simp [halias]
  rw [Statement.namedGraph, if_neg htables, hlinks,
    Plan.filter_links_joined (wellFormed_plan s o) q hfield, catalog_plan, hbound, hfirst,
    List.nil_append, List.flatMap_map]

/-- Without a complete join the tables are those that the statement lists. -/
theorem tables_catalog_of_none {s : Statement} (hnone : completeJoins s.joins = []) :
    s.catalog.tables = firstsBy id s.tableNames := by
  rw [tables_catalog, hnone]
  simp [Catalog.qualifiers]

/-- A graph has read joins or guessed ones, but not both.  If no join is complete, at least two
tables are listed and guesses are asked for, then the joins between tables are, in order, one for
each two listed tables in a row, with one between fields for each of them.  So they connect every
table with every other. -/
theorem guessedJoins_graph (s : Statement) (o : Options) :
    (∀ l ∈ (s.graph o).links, ∀ l' ∈ (s.graph o).links,
      l.confidence? = some .inferred → l'.confidence? ≠ some .parsed) ∧
    ((∀ t ∈ s.tables, Text.trim t.name ≠ "") → (∀ j ∈ s.joins, ¬ j.IsComplete) →
      o.infersJoins = true → 2 ≤ (firstsBy id s.tableNames).length →
      let g := s.graph o
      let tables := firstsBy id s.tableNames
      let condition := fun a b : String => a ++ ".id = " ++ b ++ "." ++ (a ++ "_id")
      g.linksOf .tableJoin = tables.consecutivePairs.map (fun p =>
          .ofJoin .tableJoin (tableId p.1) (tableId p.2) (condition p.1 p.2) .inferred) ∧
        (g.linksOf .tableJoin).length = tables.length - 1 ∧
        g.linksOf .fieldJoin = tables.consecutivePairs.map (fun p =>
          .ofJoin .fieldJoin (fieldId p.1 "id") (fieldId p.2 (p.1 ++ "_id")) (condition p.1 p.2)
            .inferred) ∧
        (g.tables.filter fun n => !n.isAlias) = tables.map .ofTable ∧
        ∀ a ∈ g.tables, ∀ b ∈ g.tables, a.isAlias = false → b.isAlias = false →
          Relation.EqvGen (fun x y => ∃ l ∈ g.linksOf .tableJoin, l.source = x ∧ l.target = y)
            a.id b.id) := by
  refine ⟨fun l hl l' hl' hinferred hparsed => ?_, fun hnamed hincomplete ho hlength => ?_⟩
  · cases confidence_eq_of_mem_links s o hl hl' hinferred hparsed
  have hnone : completeJoins s.joins = [] := by
    refine List.eq_nil_iff_forall_not_mem.2 fun w hw => ?_
    obtain ⟨j, hj, hcomplete⟩ := (exists_mem_completeJoins_iff s.joins).1 ⟨w, hw⟩
    exact hincomplete j hj hcomplete
  have htables := tables_catalog_of_none hnone
  have hne : s.catalog.tables ≠ [] := by
    rw [htables]
    exact List.ne_nil_of_length_pos (by omega)
  have hjoins : (s.graph o).linksOf .tableJoin = (firstsBy id s.tableNames).consecutivePairs.map
      fun p => (Relation.guess p.1 p.2).tableLink := by
    rw [graph_of_named hnamed, Graph.linksOf, filter_links_guessed hnone ho hne _ (fun _ _ => rfl)
      fun _ _ => rfl, htables, List.filter_flatMap, List.map_eq_flatMap]
    rfl
  have hfields : (s.graph o).linksOf .fieldJoin = (firstsBy id s.tableNames).consecutivePairs.map
      fun p => (Relation.guess p.1 p.2).fieldLink := by
    rw [graph_of_named hnamed, Graph.linksOf, filter_links_guessed hnone ho hne _ (fun _ _ => rfl)
      fun _ _ => rfl, htables, List.filter_flatMap, List.map_eq_flatMap]
    rfl
  have hreal : ((s.graph o).tables.filter fun n => !n.isAlias) =
      (firstsBy id s.tableNames).map .ofTable := by
    rw [graph_of_named hnamed, tables_namedGraph ((tables_catalog_ne_nil_iff s).1 hne), ← htables]
    exact (filter_alias_tableNodes s.catalog).1
  refine ⟨hjoins, ?_, hfields, hreal, fun a ha b hb hareal hbreal => ?_⟩
  · rw [hjoins, List.length_map, List.length_zip, List.length_tail]
    omega
  · have hid : ∀ n ∈ (s.graph o).tables, n.isAlias = false →
        n.id ∈ (firstsBy id s.tableNames).map tableId := by
      intro n hn hnreal
      have hmem : n ∈ (firstsBy id s.tableNames).map Node.ofTable :=
        hreal ▸ List.mem_filter.2 ⟨hn, by simp [hnreal]⟩
      obtain ⟨t, ht, rfl⟩ := List.mem_map.1 hmem
      exact List.mem_map_of_mem ht
    refine eqvGen_of_consecutivePairs (fun p hp => ?_) _ (hid a ha hareal) _ (hid b hb hbreal)
    rw [List.consecutivePairs, ← List.map_tail, List.zip_map] at hp
    obtain ⟨q, hq, rfl⟩ := List.mem_map.1 hp
    exact ⟨_, hjoins ▸ List.mem_map_of_mem hq, rfl, rfl⟩

/-- Three tables, one of them listed twice and one with the name of an alias, and a join with one
side. -/
def listedTables : Statement where
  tables := [⟨"users", some "orders"⟩, ⟨"orders ", some "o"⟩, ⟨"users", none⟩, ⟨"items", some "i"⟩]
  joins := [⟨"items", some "i", some ⟨some "i", "id"⟩, none⟩]
  projected := []
  condition := none

/-- The three tables are joined in a row. -/
theorem guessedJoins_graph_listed :
    (∀ t ∈ listedTables.tables, Text.trim t.name ≠ "") ∧
      (∀ j ∈ listedTables.joins, ¬ j.IsComplete) ∧
      Options.default.infersJoins = true ∧ 2 ≤ (firstsBy id listedTables.tableNames).length ∧
      (listedTables.graph .default).linksOf .tableJoin =
        [.ofJoin .tableJoin "table:users" "table:orders" "users.id = orders.users_id" .inferred,
          .ofJoin .tableJoin "table:orders" "table:items" "orders.id = items.orders_id" .inferred] ∧
      (listedTables.graph .default).linksOf .fieldJoin =
        [.ofJoin .fieldJoin "field:users.id" "field:orders.users_id" "users.id = orders.users_id"
            .inferred,
          .ofJoin .fieldJoin "field:orders.id" "field:items.orders_id" "orders.id = items.orders_id"
            .inferred] ∧
      ∃ l ∈ (listedTables.graph .default).links, l.confidence? = some .inferred ∧
        ∀ l' ∈ (listedTables.graph .default).links, l'.confidence? ≠ some .parsed := by
  have hnamed : ∀ t ∈ listedTables.tables, Text.trim t.name ≠ "" := by decide
  have hincomplete : ∀ j ∈ listedTables.joins, ¬ j.IsComplete := by
    simp [listedTables, Join.IsComplete]
  have htables : firstsBy id listedTables.tableNames = ["users", "orders", "items"] := by
    decide +kernel
  have hlength : 2 ≤ (firstsBy id listedTables.tableNames).length := by simp [htables]
  obtain ⟨hexclude, hguessed⟩ := guessedJoins_graph listedTables .default
  obtain ⟨hjoins, -, hfields, -⟩ := hguessed hnamed hincomplete rfl hlength
  rw [htables] at hjoins hfields
  have hmem :
      Link.ofJoin .tableJoin "table:users" "table:orders" "users.id = orders.users_id" .inferred ∈
        (listedTables.graph .default).linksOf .tableJoin := hjoins ▸ by decide
  have hlink := (List.mem_filter.1 hmem).1
  exact ⟨hnamed, hincomplete, rfl, hlength, hjoins.trans (by decide), hfields.trans (by decide), _,
    hlink, rfl, fun l' hl' => hexclude _ hlink l' hl' rfl⟩

end JoinGraph
