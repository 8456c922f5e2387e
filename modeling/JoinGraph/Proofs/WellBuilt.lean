import JoinGraph.Proofs.Identifier
import Mathlib.Data.List.Nodup

/-!
# Well-built graphs

What a reader of a graph may rely on: identifiers name one node each, a link ends at nodes of the
kinds it is meant for, and every field belongs to one table that is no alias.  `Graph.check` asks
for less, so a well-built graph passes it.

## Main results

* `WellBuilt.check` — a well-built graph passes the check.
* `fieldLinks_of_owned` — when fields and their links are drawn together, each field has one link.
-/

namespace JoinGraph

/-! ## Links and the nodes they end at -/

/-- The nodes that a kind of link is meant for. -/
def LinkKind.Joins : LinkKind → Node → Node → Prop
  | fieldTable, a, b => a.kind = .field ∧ b.kind = .table
  | tableJoin, a, b => a.kind = .table ∧ b.kind = .table
  | fieldJoin, a, b => a.kind = .field ∧ b.kind = .field
  | aliasTable, a, b =>
    (a.kind = .table ∧ a.isAlias = true) ∧ b.kind = .table ∧ b.isAlias = false

/-- The link ends at two of the nodes, of the kinds it is meant for. -/
def Link.Fits (nodes : List Node) (l : Link) : Prop :=
  ∃ a ∈ nodes, ∃ b ∈ nodes, a.id = l.source ∧ b.id = l.target ∧ l.kind.Joins a b

theorem Link.Fits.append {nodes : List Node} {l : Link} (h : l.Fits nodes) (more : List Node) :
    l.Fits (nodes ++ more) := by
  obtain ⟨a, ha, b, hb, hfits⟩ := h
  exact ⟨a, List.mem_append_left _ ha, b, List.mem_append_left _ hb, hfits⟩

/-! ## Graphs -/

namespace Graph

/-- The field has one link to a table, which is the one it names, and that table is no alias. -/
def OwnsField (g : Graph) (field : Node) : Prop :=
  ∃ table, field.table? = some table ∧
    (∃ l, (g.links.filter fun l => l.kind == .fieldTable && l.source == field.id) = [l] ∧
      l.target = tableId table) ∧
    (∃ owner ∈ g.nodes, owner.id = tableId table ∧ owner.kind = .table ∧ owner.isAlias = false) ∧
    g.aliases.find? table = none

/-- Identifiers are unique, links end at nodes of the right kinds, and fields belong to tables. -/
structure WellBuilt (g : Graph) : Prop where
  ids_nodup : (g.nodes.map Node.id).Nodup
  links_fit : ∀ l ∈ g.links, l.Fits g.nodes
  fields_owned : ∀ n ∈ g.nodes, n.kind = .field → g.OwnsField n

theorem has_iff (g : Graph) (id : String) : g.has id = true ↔ ∃ n ∈ g.nodes, n.id = id := by
  simp [has]

/-- A well-built graph passes the check. -/
theorem WellBuilt.check {g : Graph} (h : g.WellBuilt) : g.check = .ok () := by
  have hdangling : g.danglingLink? = none := by
    rw [danglingLink?, List.find?_eq_none]
    intro l hl
    obtain ⟨a, ha, b, hb, hsource, htarget, -⟩ := h.links_fit l hl
    simp [(g.has_iff _).2 ⟨a, ha, hsource⟩, (g.has_iff _).2 ⟨b, hb, htarget⟩]
  have horphan : g.orphanField? = none := by
    rw [orphanField?, List.find?_eq_none]
    intro n hn
    obtain ⟨hmem, hkind⟩ := List.mem_filter.1 hn
    obtain ⟨table, htable, ⟨l, hlinks, -⟩, ⟨owner, howner, hid, -⟩, -⟩ :=
      h.fields_owned n hmem (by simpa using hkind)
    have hlinks : (g.linksOf .fieldTable).filter (·.source == n.id) = [l] := by
      rw [linksOf, List.filter_filter, ← hlinks]
      simp only [Bool.and_comm]
    simp [isOwned, hlinks, ownerOf, htable, (g.has_iff _).2 ⟨owner, howner, hid⟩]
  simp [Graph.check, hdangling, horphan]

end Graph

/-! ## Fields and their links -/

/-- The link that is drawn with a field. -/
def Node.ownerLink (n : Node) : Link :=
  ⟨n.id, tableId (Graph.ownerOf n), .fieldTable, none, none, none, none⟩

theorem filter_id_eq {nodes : List Node} (h : (nodes.map Node.id).Nodup) {n : Node}
    (hn : n ∈ nodes) : (nodes.filter fun m => m.id == n.id) = [n] := by
  induction nodes with
  | nil => simp at hn
  | cons m nodes ih =>
      obtain ⟨hm, hrest⟩ := List.nodup_cons.1 (List.map_cons ▸ h)
      rcases List.mem_cons.1 hn with rfl | hn
      · rw [List.filter_cons_of_pos (by simp), List.filter_eq_nil_iff.2]
        intro m hmem heq
        exact hm ((beq_iff_eq.1 heq) ▸ List.mem_map_of_mem hmem)
      · have hne : m.id ≠ n.id := fun heq => hm (heq ▸ List.mem_map_of_mem hn)
        rw [List.filter_cons_of_neg (by simpa using hne), ih hrest hn]

/-- When every field is drawn with its link, and with no other, each field has one link. -/
theorem fieldLinks_of_owned {nodes : List Node} {links : List Link}
    (hids : (nodes.map Node.id).Nodup)
    (howned : links.filter (·.kind == .fieldTable) =
      (nodes.filter (·.kind == .field)).map Node.ownerLink)
    {n : Node} (hn : n ∈ nodes) (hkind : n.kind = .field) :
    (links.filter fun l => l.kind == .fieldTable && l.source == n.id) = [n.ownerLink] := by
  have hfields : ((nodes.filter (·.kind == .field)).map Node.id).Nodup :=
    hids.sublist (List.filter_sublist.map Node.id)
  have hmem : n ∈ nodes.filter (·.kind == .field) := List.mem_filter.2 ⟨hn, by simp [hkind]⟩
  calc (links.filter fun l => l.kind == .fieldTable && l.source == n.id)
      = (links.filter (·.kind == .fieldTable)).filter (·.source == n.id) := by
        rw [List.filter_filter]
        simp only [Bool.and_comm]
    _ = ((nodes.filter (·.kind == .field)).filter fun m => m.id == n.id).map Node.ownerLink := by
        rw [howned, List.filter_map]
        rfl
    _ = [n.ownerLink] := by rw [filter_id_eq hfields hmem, List.map_singleton]

end JoinGraph
