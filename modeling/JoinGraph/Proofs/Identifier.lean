import JoinGraph.Graph
import JoinGraph.Text.Trim

/-!
# Identifiers of nodes

The identifier of a table tells its name.  That of a field runs a table and a field together at a
dot, so it tells both only if no table has a dot in its name.

## Main results

* `tableId_inj`, `tableId_ne_fieldId` — tables are told apart, from each other and from fields.
* `fieldId_inj_of_no_dot` — so are fields, if the names of their tables have no dot.
* `isNodeId_tableId`, `isNodeId_field` — an identifier starts with the kind of its node.
-/

namespace JoinGraph

@[simp] theorem tableId_inj (a b : String) : tableId a = tableId b ↔ a = b := by
  simp [tableId]

theorem tableId_ne_fieldId (a table field : String) : tableId a ≠ fieldId table field := by
  intro h
  have hchars := congrArg String.toList h
  simp [tableId, fieldId] at hchars

/-- Fields of tables without a dot are told apart. -/
theorem fieldId_inj_of_no_dot {t t' f f' : String} (ht : '.' ∉ t.toList) (ht' : '.' ∉ t'.toList)
    (h : fieldId t f = fieldId t' f') : t = t' ∧ f = f' := by
  have hchars := congrArg String.toList h
  simp only [fieldId, String.toList_append, List.append_assoc, List.append_cancel_left_eq] at hchars
  obtain ⟨hl, hr⟩ := Text.append_separator_inj ht ht' hchars
  exact ⟨String.ext hl, String.ext hr⟩

/-- An identifier of a node: the kind, a colon, and any text. -/
def IsNodeId (id : String) : Prop :=
  ∃ kind : NodeKind, ∃ name, id = String.ofList (kind.name.toList ++ ':' :: name)

theorem isNodeId_tableId (name : String) : IsNodeId (tableId name) :=
  ⟨.table, name.toList, String.ext (by simp [tableId, NodeKind.name])⟩

theorem isNodeId_field (text : String) : IsNodeId ("field:" ++ text) :=
  ⟨.field, text.toList, String.ext (by simp [NodeKind.name])⟩

end JoinGraph
