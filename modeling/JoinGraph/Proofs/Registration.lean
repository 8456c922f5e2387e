import JoinGraph.Statement
import Mathlib.Data.List.Forall2

/-!
# Adding tables without clashes

Readers add the tables of a statement one by one, and drop what would clash with an earlier table.
Where nothing clashes (`Registrable`) they add each table as it is: reading a list of entries that
stand for tables, or for joined tables, appends exactly these.

## Main results

* `pushJoin_of_not_blank` — which alias a join has.
* `pushTable_of_registrable`, `pushJoin_of_registrable` — one table, with or without a join.
* `foldl_tables`, `foldl_joins` — all entries of a list, whatever form they have.
-/

namespace JoinGraph

/-- The table that is joined. -/
def Join.tableRef (j : Join) : TableRef := ⟨j.table, j.alias?⟩

namespace Statement

/-- Tables with names, of which no alias is empty, is the name of its table or is declared twice. -/
structure Registrable (tables : List TableRef) : Prop where
  named : ∀ t ∈ tables, Text.isBlankText t.name = false
  alias_ne : ∀ t ∈ tables, ∀ a ∈ t.alias?, a ≠ "" ∧ a ≠ t.name
  aliases_nodup : (tables.filterMap TableRef.alias?).Nodup

variable {α : Type} {taken others tables : List TableRef} {t : TableRef} {j : Join} {s : Statement}

/-- An alias is kept if it is not empty, not the name of its table and not declared before. -/
theorem keptAlias_eq_some_iff (tables : List TableRef) (name : String) (alias? : Option String)
    (a : String) : keptAlias tables name alias? = some a ↔
      alias? = some a ∧ a ≠ "" ∧ a ≠ name ∧ a ∉ tables.filterMap TableRef.alias? := by
  have hdeclared : declares tables a = false ↔ a ∉ tables.filterMap TableRef.alias? := by
    rw [Bool.eq_false_iff]
    simp [declares]
  rw [← hdeclared]
  simp [keptAlias, Option.filter_eq_some_iff, and_assoc]

/-- An alias that no other table declares is kept. -/
theorem keptAlias_of_registrable (h : Registrable (taken ++ t :: others)) :
    keptAlias taken t.name t.alias? = t.alias? := by
  cases halias : t.alias? with
  | none => rfl
  | some a =>
      obtain ⟨hne, hname⟩ := h.alias_ne t (by simp) a halias
      have hnodup := h.aliases_nodup
      rw [List.filterMap_append, List.nodup_append] at hnodup
      have hfresh : a ∉ taken.filterMap TableRef.alias? := fun htaken =>
        hnodup.2.2 a htaken a (by simp [halias]) rfl
      exact (keptAlias_eq_some_iff taken t.name _ a).2 ⟨rfl, hne, hname, hfresh⟩

/-- A table that clashes with none before it is added as it is. -/
theorem pushTable_of_registrable (h : Registrable (s.tables ++ t :: others)) :
    s.pushTable t.name t.alias? = { s with tables := s.tables ++ [t] } := by
  rw [pushTable_of_not_blank (h.named t (by simp)), keptAlias_of_registrable h]

/-- Without a name, neither the joined table nor its join is added. -/
theorem pushJoin_of_blank {table : String} (h : Text.isBlankText table = true)
    (alias? : Option String) (left right : Option ColumnRef) :
    s.pushJoin table alias? left right = s := by
  rw [pushJoin, if_pos h]

/-- A joined table is added with its join, which has the alias that the table keeps. -/
theorem pushJoin_of_not_blank {table : String} (h : Text.isBlankText table = false)
    (alias? : Option String) (left right : Option ColumnRef) :
    s.pushJoin table alias? left right =
      let kept := keptAlias s.tables table alias?
      { s with
        tables := s.tables ++ [⟨table, kept⟩]
        joins := s.joins ++ [⟨table, kept, left, right⟩] } := by
  rw [pushJoin, if_neg (by simp [h]), pushTable_of_not_blank h]
  simp [survivingAlias]

/-- A joined table that clashes with none before it is added as it is, and its join with it. -/
theorem pushJoin_of_registrable (h : Registrable (s.tables ++ j.tableRef :: others)) :
    s.pushJoin j.table j.alias? j.left j.right =
      { s with tables := s.tables ++ [j.tableRef], joins := s.joins ++ [j] } := by
  have hnamed : Text.isBlankText j.table = false := h.named j.tableRef (by simp)
  have hkept : keptAlias s.tables j.table j.alias? = j.alias? := keptAlias_of_registrable h
  rw [pushJoin_of_not_blank hnamed, hkept]
  rfl

/-- Entries that stand for tables are read into these tables. -/
theorem foldl_tables {add : Statement → α → Statement} {entries : List α}
    (hadd : List.Forall₂ (fun e t => ∀ s, add s e = s.pushTable t.name t.alias?) entries tables)
    (h : Registrable (s.tables ++ (tables ++ others))) :
    entries.foldl add s = { s with tables := s.tables ++ tables } := by
  induction hadd generalizing s with
  | nil => simp
  | cons he _ ih =>
      rw [List.foldl_cons, he, pushTable_of_registrable h, ih (by simpa using h)]
      simp

/-- Entries that stand for joins are read into these joins and their tables. -/
theorem foldl_joins {add : Statement → α → Statement} {entries : List α} {joins : List Join}
    (hadd : List.Forall₂ (fun e j => ∀ s, add s e = s.pushJoin j.table j.alias? j.left j.right)
      entries joins)
    (h : Registrable (s.tables ++ joins.map Join.tableRef)) :
    entries.foldl add s =
      { s with tables := s.tables ++ joins.map Join.tableRef, joins := s.joins ++ joins } := by
  induction hadd generalizing s with
  | nil => simp
  | cons he _ ih =>
      rw [List.foldl_cons, he, pushJoin_of_registrable h, ih (by simpa using h)]
      simp

end Statement

end JoinGraph
