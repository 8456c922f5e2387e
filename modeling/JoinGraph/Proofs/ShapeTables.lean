import JoinGraph.Proofs.NormalStatement

/-!
# The tables of a tree

A statement that is read off a tree is normal, so none of its tables has a blank name, whatever
the shape of the tree is.

## Main results

* `tablesNamed_statement` — every table of every tree has a name.
-/

namespace JoinGraph

namespace Statement

/-- Every table has a name that is not blank. -/
def TablesNamed (s : Statement) : Prop := ∀ t ∈ s.tables, Text.trim t.name ≠ ""

theorem Normal.tablesNamed {s : Statement} (h : s.Normal) : s.TablesNamed := by
  intro t ht
  obtain ⟨htrim, hne⟩ := h.names t ht
  rwa [htrim]

end Statement

namespace Shape

theorem Flat.tablesNamed_statement (select : Flat.Select) : select.statement.TablesNamed :=
  (Flat.normal_select select).1.tablesNamed

/-- Every table of every tree has a name. -/
theorem tablesNamed_statement (shape : Shape) : shape.statement.TablesNamed :=
  shape.normal.tablesNamed

end Shape

/-- So has every table of a tree whose shape is recognized. -/
theorem Tree.tablesNamed_of_statement {t : Tree} {s : Statement} (h : t.statement = .ok s) :
    s.TablesNamed := by
  rw [Tree.statement] at h
  cases hshape : t.recognize with
  | error fault => simp [hshape] at h
  | ok shape =>
      simp only [hshape, Functor.map, Except.map, Except.ok.injEq] at h
      exact h ▸ Shape.tablesNamed_statement shape

end JoinGraph
