import JoinGraph.Proofs.Drawing
import Mathlib.Data.List.Forall2

/-!
# Two drawings of one catalog

Two plans may differ in what they say of a field, and in nothing else that drawing asks for.  Then
the two runs stay in step: an identifier is taken in both sketches or in neither, so both have the
same links, and nodes in the same order.  `Sketch.Alike` is what both runs keep, for any relation
`R` between the nodes of one and the other that goes with identifiers.

A run that goes on alone can only add: `Sketch.Extends` says what.

## Main results

* `Alike.drawFields`, `Plan.alike_joined` — the runs stay in step while fields and joins are drawn.
* `extends_drawJoins` — joins add links of their relations, and fields with their links.
-/

namespace JoinGraph

namespace Sketch

/-! ## Runs in step -/

/-- The same links and joined pairs, and nodes that are related one by one. -/
structure Alike (R : Node → Node → Prop) (s t : Sketch) : Prop where
  nodes : List.Forall₂ R s.nodes t.nodes
  links : s.links = t.links
  joined : s.joined = t.joined

section Steps

variable {R : Node → Node → Prop} {p q : Plan} {s t : Sketch}

theorem Alike.refl (hrefl : ∀ n, R n n) (s : Sketch) : Alike R s s :=
  ⟨List.forall₂_same.2 fun n _ => hrefl n, rfl, rfl⟩

theorem Alike.addLink (h : Alike R s t) (l : Link) : Alike R (s.addLink l) (t.addLink l) :=
  ⟨h.nodes, congrArg (· ++ [l]) h.links, h.joined⟩

theorem Alike.markJoin (h : Alike R s t) (a b : String) :
    Alike R (s.markJoin a b) (t.markJoin a b) :=
  ⟨h.nodes, h.links, congrArg (pairOf a b :: ·) h.joined⟩

variable (hid : ∀ n m, R n m → n.id = m.id)

include hid

theorem Alike.has_eq (h : Alike R s t) (id : String) : s.has id = t.has id := by
  have hids : s.nodes.map Node.id = t.nodes.map Node.id := by
    rw [← List.forall₂_eq_eq_eq, List.forall₂_map_left_iff, List.forall₂_map_right_iff]
    exact h.nodes.imp hid
  have hany : ∀ d : Sketch, d.has id = (d.nodes.map Node.id).any (· == id) := fun d => by
    rw [List.any_map]
    rfl
  rw [hany, hany, hids]

/-- A field is drawn in both sketches or in neither. -/
theorem Alike.drawField (h : Alike R s t) {table field label label' : String}
    (hnode : R (fieldNode p table field label) (fieldNode q table field label')) :
    Alike R (Sketch.drawField p s table field label) (Sketch.drawField q t table field label') := by
  cases hfree : s.has (fieldId table field) with
  | true => rwa [drawField_of_has hfree, drawField_of_has ((h.has_eq hid _).symm.trans hfree)]
  | false =>
      rw [drawField_of_not_has hfree, drawField_of_not_has ((h.has_eq hid _).symm.trans hfree)]
      exact ⟨List.rel_append h.nodes (.cons hnode .nil), congrArg (· ++ _) h.links, h.joined⟩

/-- Plans that show the same columns draw their fields in step. -/
theorem Alike.drawFields (h : Alike R s t) (hshown : p.shown = q.shown)
    (hnode : ∀ table field,
      R (fieldNode p table field (labelOf p.labels (fieldId table field) field))
        (fieldNode q table field (labelOf q.labels (fieldId table field) field))) :
    Alike R (s.drawFields p) (t.drawFields q) := by
  rw [drawFields_eq, drawFields_eq, ← hshown]
  exact List.foldl_rel h fun c _ _ _ hstep => hstep.drawField hid (hnode c.1 c.2)

theorem Alike.drawJoin (h : Alike R s t)
    (hend : ∀ table field, R (fieldNode p table field field) (fieldNode q table field field))
    (r : Relation) : Alike R (Sketch.drawJoin p s r) (Sketch.drawJoin q t r) := by
  have hlinked := (h.markJoin r.left.table r.right.table).addLink r.tableLink
  have hleft := hlinked.drawField hid (hend r.left.table r.left.field)
  have hright := hleft.drawField hid (hend r.right.table r.right.field)
  exact hright.addLink r.fieldLink

theorem Alike.drawJoins (h : Alike R s t)
    (hend : ∀ table field, R (fieldNode p table field field) (fieldNode q table field field))
    (rs : List Relation) :
    Alike R (rs.foldl (Sketch.drawJoin p) s) (rs.foldl (Sketch.drawJoin q) t) :=
  List.foldl_rel h fun r _ _ _ hstep => hstep.drawJoin hid hend r

end Steps

/-! ## A run that goes on -/

/-- What comes behind a sketch: fields, each link that of one of these or one for which `joins`
holds. -/
def Extends (joins : Link → Prop) (s d : Sketch) : Prop :=
  ∃ nodes links, d.nodes = s.nodes ++ nodes ∧ d.links = s.links ++ links ∧
    (∀ n ∈ nodes, n.kind = .field) ∧ ∀ l ∈ links, joins l ∨ ∃ n ∈ nodes, l = n.ownerLink

namespace Extends

variable {joins : Link → Prop} {s d e : Sketch}

theorem refl (s : Sketch) : Extends joins s s := ⟨[], [], by simp, by simp, by simp, by simp⟩

theorem trans (h : Extends joins s d) (h' : Extends joins d e) : Extends joins s e := by
  obtain ⟨nodes, links, hnodes, hlinks, hfields, hall⟩ := h
  obtain ⟨nodes', links', hnodes', hlinks', hfields', hall'⟩ := h'
  refine ⟨nodes ++ nodes', links ++ links', by simp [hnodes', hnodes], by simp [hlinks', hlinks],
    fun n hn => ?_, fun l hl => ?_⟩
  · exact (List.mem_append.1 hn).elim (hfields n) (hfields' n)
  · rcases List.mem_append.1 hl with hl | hl
    · rcases hall l hl with hjoins | ⟨n, hn, heq⟩
      · exact .inl hjoins
      · exact .inr ⟨n, List.mem_append_left _ hn, heq⟩
    · rcases hall' l hl with hjoins | ⟨n, hn, heq⟩
      · exact .inl hjoins
      · exact .inr ⟨n, List.mem_append_right _ hn, heq⟩

theorem addLink {l : Link} (hl : joins l) (s : Sketch) : Extends joins s (s.addLink l) :=
  ⟨[], [l], by simp [Sketch.addLink], rfl, by simp, by simp [hl]⟩

theorem drawField (p : Plan) (s : Sketch) (table field label : String) :
    Extends joins s (Sketch.drawField p s table field label) := by
  cases hfree : s.has (fieldId table field) with
  | true =>
      rw [drawField_of_has hfree]
      exact .refl s
  | false =>
      rw [drawField_of_not_has hfree]
      refine ⟨[fieldNode p table field label], [.ofField table field], rfl, rfl, ?_, ?_⟩
      · intro n hn
        rw [List.mem_singleton.1 hn]
        rfl
      · intro l hl
        exact .inr ⟨_, List.mem_singleton_self _, List.mem_singleton.1 hl⟩

end Extends

/-- Joins add both links of their relations, and the fields at their ends that are not there. -/
theorem extends_drawJoins {joins : Link → Prop} (p : Plan) (rs : List Relation)
    (hjoins : ∀ r ∈ rs, joins r.tableLink ∧ joins r.fieldLink) (s : Sketch) :
    Extends joins s (rs.foldl (drawJoin p) s) := by
  refine List.foldlRecOn (motive := Extends joins s) rs _ (.refl s) fun d hd r hr => ?_
  obtain ⟨htables, hfields⟩ := hjoins r hr
  have hlinked : Extends joins d ((d.markJoin r.left.table r.right.table).addLink r.tableLink) :=
    Extends.addLink htables (d.markJoin r.left.table r.right.table)
  have hleft := hlinked.trans (.drawField p _ r.left.table r.left.field r.left.field)
  have hright := hleft.trans (.drawField p _ r.right.table r.right.field r.right.field)
  exact hd.trans (hright.trans (.addLink hfields _))

end Sketch

/-! ## Plans -/

/-- Plans of one catalog that show the same columns and have the same first relations are drawn in
step. -/
theorem Plan.alike_joined {R : Node → Node → Prop} {p q : Plan} (hid : ∀ n m, R n m → n.id = m.id)
    (hrefl : ∀ n, R n n) (hcatalog : p.catalog = q.catalog) (hshown : p.shown = q.shown)
    (hfirst : firstsBy Relation.tables p.relations = firstsBy Relation.tables q.relations)
    (hnode : ∀ table field,
      R (Sketch.fieldNode p table field (labelOf p.labels (fieldId table field) field))
        (Sketch.fieldNode q table field (labelOf q.labels (fieldId table field) field)))
    (hend : ∀ table field,
      R (Sketch.fieldNode p table field field) (Sketch.fieldNode q table field field)) :
    Sketch.Alike R p.joined q.joined := by
  have htables := Sketch.Alike.refl hrefl (Sketch.empty.drawTables p.catalog)
  have hfields := htables.drawFields hid hshown hnode
  rw [joined, joined, ← hfirst, ← hcatalog]
  exact hfields.drawJoins hid hend _

end JoinGraph
