import JoinGraph.Drawing
import JoinGraph.Proofs.Catalog
import Mathlib.Data.List.Defs
import Mathlib.Data.Sym.Sym2

/-!
# Relations of a well-formed catalog

Relations are read from complete joins, or guessed for tables in a row.  In both cases their ends
are columns of tables, and an end that was named by an alias carries one that is bound to its
table (`Endpoint.Known`).  So whatever a relation needs in order to be drawn is there.

## Main results

* `exists_mem_completeJoins_iff` — a join is read exactly if it is complete.
* `known_relationsOf` — all ends of all relations are known to the catalog.
* `nodup_tables_guesses` — guesses never join the same two tables twice.
-/

namespace JoinGraph

/-! ## Complete joins -/

/-- A column with a qualifier, neither of them blank. -/
def ColumnRef.IsComplete (c : ColumnRef) : Prop :=
  (∃ q, c.table = some q ∧ Text.trim q ≠ "") ∧ Text.trim c.column ≠ ""

/-- A join with a qualified column on both sides, nothing of it blank. -/
def Join.IsComplete (j : Join) : Prop :=
  ∃ l r, j.left = some l ∧ j.right = some r ∧ l.IsComplete ∧ r.IsComplete

namespace WrittenJoin

/-- A side is read without the blanks around its parts. -/
theorem side?_eq_some_iff (c : ColumnRef) (q column : String) :
    side? c = some (q, column) ↔
      ((∃ t, c.table = some t ∧ Text.trim t = q) ∧ q ≠ "") ∧
        Text.trim c.column = column ∧ column ≠ "" := by
  simp only [side?, Option.bind_eq_bind, Option.pure_def, Option.bind_eq_some_iff,
    Text.nonBlank?_eq_some_iff, Option.some.injEq, Prod.mk.injEq]
  constructor
  · rintro ⟨_, ⟨t, ht, rfl, hq⟩, _, ⟨rfl, hcolumn⟩, rfl, rfl⟩
    exact ⟨⟨⟨t, ht, rfl⟩, hq⟩, rfl, hcolumn⟩
  · rintro ⟨⟨⟨t, ht, rfl⟩, hq⟩, rfl, hcolumn⟩
    exact ⟨_, ⟨t, ht, rfl, hq⟩, _, ⟨rfl, hcolumn⟩, rfl, rfl⟩

theorem exists_side?_iff (c : ColumnRef) :
    (∃ q column, side? c = some (q, column)) ↔ c.IsComplete := by
  simp only [side?_eq_some_iff, ColumnRef.IsComplete]
  constructor
  · rintro ⟨_, _, ⟨⟨t, ht, rfl⟩, hq⟩, rfl, hcolumn⟩
    exact ⟨⟨t, ht, hq⟩, hcolumn⟩
  · rintro ⟨⟨t, ht, hq⟩, hcolumn⟩
    exact ⟨_, _, ⟨⟨t, ht, rfl⟩, hq⟩, rfl, hcolumn⟩

theorem ofJoin?_eq_some_iff (j : Join) (w : WrittenJoin) :
    ofJoin? j = some w ↔ ∃ l r, j.left = some l ∧ j.right = some r ∧
      side? l = some (w.left, w.leftColumn) ∧ side? r = some (w.right, w.rightColumn) := by
  obtain ⟨left, leftColumn, right, rightColumn⟩ := w
  simp only [ofJoin?, Option.bind_eq_bind, Option.pure_def, Option.bind_eq_some_iff,
    Option.some.injEq, WrittenJoin.mk.injEq]
  constructor
  · rintro ⟨_, ⟨l, hl, hsl⟩, _, ⟨r, hr, hsr⟩, rfl, rfl, rfl, rfl⟩
    exact ⟨l, r, hl, hr, hsl, hsr⟩
  · rintro ⟨l, r, hl, hr, hsl, hsr⟩
    exact ⟨_, ⟨l, hl, hsl⟩, _, ⟨r, hr, hsr⟩, rfl, rfl, rfl, rfl⟩

end WrittenJoin

/-- A join is read exactly if it is complete. -/
theorem exists_mem_completeJoins_iff (joins : List Join) :
    (∃ w, w ∈ completeJoins joins) ↔ ∃ j ∈ joins, j.IsComplete := by
  simp only [completeJoins, List.mem_filterMap, WrittenJoin.ofJoin?_eq_some_iff, Join.IsComplete]
  constructor
  · rintro ⟨w, j, hj, l, r, hl, hr, hsl, hsr⟩
    exact ⟨j, hj, l, r, hl, hr, (WrittenJoin.exists_side?_iff l).1 ⟨_, _, hsl⟩,
      (WrittenJoin.exists_side?_iff r).1 ⟨_, _, hsr⟩⟩
  · rintro ⟨j, hj, l, r, hl, hr, hcl, hcr⟩
    obtain ⟨q, column, hsl⟩ := (WrittenJoin.exists_side?_iff l).2 hcl
    obtain ⟨q', column', hsr⟩ := (WrittenJoin.exists_side?_iff r).2 hcr
    exact ⟨⟨q, column, q', column'⟩, j, hj, l, r, hl, hr, hsl, hsr⟩

/-! ## Known ends -/

/-- An end of a relation at a table of the catalog, with an alias only if that is bound to it. -/
structure Endpoint.Known (c : Catalog) (e : Endpoint) : Prop where
  table : e.table ∈ c.tables
  bound : ∀ a, e.alias? = some a → (a, e.table) ∈ c.aliases

/-- Both ends of the relation are known. -/
def Relation.Known (c : Catalog) (r : Relation) : Prop := r.left.Known c ∧ r.right.Known c

theorem known_endpoint {c : Catalog} (h : c.WellFormed) {q : String} (hq : c.Knows q)
    (column : String) : (Relation.endpoint c q column).Known c where
  table := h.resolve_mem_tables hq
  bound := by
    intro a ha
    simp only [Relation.endpoint] at ha ⊢
    split at ha
    · simp at ha
    · next hne =>
        obtain rfl := Option.some.inj ha
        exact Catalog.mem_aliases_of_resolve_ne hne

/-! ## Guesses -/

/-- No table of a well-formed catalog is passed over. -/
theorem guesses_eq {c : Catalog} (h : c.WellFormed) :
    Relation.guesses c = c.tables.consecutivePairs.map fun p => Relation.guess p.1 p.2 := by
  rw [Relation.guesses, ← List.filterMap_eq_map]
  refine List.filterMap_congr fun p hp => ?_
  obtain ⟨left, right⟩ := p
  have hl := h.isAlias_of_mem_tables (List.of_mem_zip hp).1
  have hr := h.isAlias_of_mem_tables (List.mem_of_mem_tail (List.of_mem_zip hp).2)
  simp [hl, hr]

/-- Two tables follow each other exactly if they are one piece of the list. -/
theorem mem_consecutivePairs_iff {α : Type} (l : List α) (a b : α) :
    (a, b) ∈ l.consecutivePairs ↔ [a, b] <:+: l := by
  induction l with
  | nil => simp
  | cons x l ih =>
      cases l with
      | nil => simp [List.consecutivePairs, List.infix_cons_iff]
      | cons y l =>
          rw [List.infix_cons_iff, ← ih]
          simp [List.consecutivePairs]

/-- Pairs of neighbours in a list without repetition differ, also when direction is disregarded. -/
theorem nodup_consecutivePairs {α : Type} {l : List α} (h : l.Nodup) :
    (l.consecutivePairs.map fun p => s(p.1, p.2)).Nodup := by
  induction l with
  | nil => simp
  | cons x l ih =>
      obtain ⟨hx, hl⟩ := List.nodup_cons.1 h
      cases l with
      | nil => exact List.nodup_nil
      | cons y l =>
          refine List.nodup_cons.2 ⟨fun hmem => ?_, ih hl⟩
          obtain ⟨p, hp, heq⟩ := List.mem_map.1 hmem
          have hp1 : p.1 ∈ y :: l := (List.of_mem_zip hp).1
          have hp2 : p.2 ∈ y :: l := List.mem_of_mem_tail (List.of_mem_zip hp).2
          -- The first element would occur again, as a neighbour of another.
          have hxp : x ∈ s(p.1, p.2) := heq ▸ Sym2.mem_mk_left x y
          rcases Sym2.mem_iff.1 hxp with rfl | rfl
          · exact hx hp1
          · exact hx hp2

/-- The two tables of a relation, without direction. -/
def Relation.tables (r : Relation) : Sym2 String := s(r.left.table, r.right.table)

/-- Guesses never join the same two tables twice. -/
theorem nodup_tables_guesses {c : Catalog} (h : c.WellFormed) :
    ((Relation.guesses c).map Relation.tables).Nodup := by
  rw [guesses_eq h, List.map_map]
  exact nodup_consecutivePairs h.tables_nodup

theorem known_guesses {c : Catalog} (h : c.WellFormed) :
    ∀ r ∈ Relation.guesses c, r.Known c := by
  intro r hr
  rw [guesses_eq h] at hr
  obtain ⟨p, hp, rfl⟩ := List.mem_map.1 hr
  exact ⟨⟨(List.of_mem_zip hp).1, by simp [Relation.guess]⟩,
    ⟨List.mem_of_mem_tail (List.of_mem_zip hp).2, by simp [Relation.guess]⟩⟩

/-! ## The relations of a statement -/

/-- Complete joins leave no room for guesses. -/
theorem relationsOf_of_ne_nil (c : Catalog) {joins : List WrittenJoin} (h : joins ≠ [])
    (o : Options) : relationsOf c joins o = joins.map (Relation.ofWritten c) := by
  simp [relationsOf, h]

/-- Without complete joins there are the guesses, if they are asked for. -/
theorem relationsOf_nil (c : Catalog) (o : Options) :
    relationsOf c [] o = if o.infersJoins then Relation.guesses c else [] := by
  by_cases hlen : 1 < c.tables.length
  · simp [relationsOf, hlen]
  · have hnone : Relation.guesses c = [] := by
      cases htables : c.tables with
      | nil => simp [Relation.guesses, htables]
      | cons t rest =>
          cases rest with
          | nil => simp [Relation.guesses, htables]
          | cons _ _ => simp [htables] at hlen
    simp [relationsOf, hlen, hnone]

/-- Without complete joins, no relation repeats the tables of another. -/
theorem firstsBy_relationsOf_nil {c : Catalog} (h : c.WellFormed) (o : Options) :
    firstsBy Relation.tables (relationsOf c [] o) = relationsOf c [] o := by
  rw [relationsOf_nil]
  split
  · exact firstsBy_eq_self _ (nodup_tables_guesses h)
  · rfl

/-- All ends of all relations are known to the catalog. -/
theorem known_relationsOf {c : Catalog} (h : c.WellFormed) {joins : List WrittenJoin}
    (hjoins : ∀ w ∈ joins, c.Knows w.left ∧ c.Knows w.right) (o : Options) :
    ∀ r ∈ relationsOf c joins o, r.Known c := by
  intro r hr
  by_cases hnil : joins = []
  · subst hnil
    rw [relationsOf_nil] at hr
    split at hr
    · exact known_guesses h r hr
    · simp at hr
  · rw [relationsOf_of_ne_nil c hnil] at hr
    obtain ⟨w, hw, rfl⟩ := List.mem_map.1 hr
    exact ⟨known_endpoint h (hjoins w hw).1 _, known_endpoint h (hjoins w hw).2 _⟩

end JoinGraph
