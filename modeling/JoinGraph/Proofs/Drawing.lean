import JoinGraph.Proofs.Sketch

/-!
# Drawing a plan

Drawing a well-formed plan never fails.  What comes of it is `Plan.drawing`: tables and aliases, the
fields that are shown, the first relation of each pair of tables, and the joins between aliases, if
they are asked for.

## Main results

* `Plan.sketch_eq` — the sketch of a well-formed plan.
* `Plan.drawn_drawing` — it keeps the invariant of drawing.
* `Plan.has_of_shown`, `Plan.has_of_first` — which fields are there.
* `Plan.filter_links_joined`, `Plan.filter_links_drawing` — its links, apart from those of fields.
-/

namespace JoinGraph

namespace Sketch

variable {p : Plan} {s : Sketch}

/-! ## Runs of joins -/

theorem Drawn.drawJoins (h : Drawn p s) (hp : p.WellFormed) (rs : List Relation)
    (hrs : ∀ r ∈ rs, r ∈ p.relations) :
    let d := rs.foldl (Sketch.drawJoin p) s
    Drawn p d ∧ s.nodes <+: d.nodes ∧
      ∀ r ∈ rs, d.has (fieldId r.left.table r.left.field) = true ∧
        d.has (fieldId r.right.table r.right.field) = true := by
  induction rs generalizing s with
  | nil => exact ⟨h, List.prefix_refl _, by simp⟩
  | cons r rs ih =>
      obtain ⟨hdrawn, hsub, -, hleft, hright⟩ := h.drawJoin hp (hrs r (by simp))
      obtain ⟨hrun, hsub', hall⟩ := ih hdrawn (fun r' hr' => hrs r' (by simp [hr']))
      have hmono : ∀ id, (Sketch.drawJoin p s r).has id = true →
          (rs.foldl (Sketch.drawJoin p) (Sketch.drawJoin p s r)).has id = true := by
        intro id hid
        obtain ⟨n, hn, rfl⟩ := (has_iff _ _).1 hid
        exact (has_iff _ _).2 ⟨n, hsub'.subset hn, rfl⟩
      refine ⟨hrun, hsub.trans hsub', fun r' hr' => ?_⟩
      rcases List.mem_cons.1 hr' with rfl | hr'
      · exact ⟨hmono _ hleft, hmono _ hright⟩
      · exact hall r' hr'

/-- Links of no other kind than those of fields are drawn with a field. -/
theorem filter_links_drawField (q : Link → Bool) (hq : ∀ t f, q (.ofField t f) = false)
    (table field label : String) :
    (drawField p s table field label).links.filter q = s.links.filter q := by
  cases h : s.has (fieldId table field) with
  | true => rw [drawField_of_has h]
  | false => simp [drawField_of_not_has h, hq]

/-- Each join draws its two links, in this order. -/
theorem filter_links_drawJoins (q : Link → Bool) (hq : ∀ t f, q (.ofField t f) = false)
    (rs : List Relation) :
    (rs.foldl (drawJoin p) s).links.filter q =
      s.links.filter q ++ (rs.flatMap fun r => [r.tableLink, r.fieldLink]).filter q := by
  induction rs generalizing s with
  | nil => simp
  | cons r rs ih =>
      have hstep : (drawJoin p s r).links.filter q =
          s.links.filter q ++ [r.tableLink, r.fieldLink].filter q := by
        rw [drawJoin, addLink, List.filter_append, filter_links_drawField q hq,
          filter_links_drawField q hq, addLink, List.filter_append, markJoin, List.append_assoc,
          ← List.filter_append, List.singleton_append]
      rw [List.foldl_cons, ih, hstep, List.flatMap_cons, List.filter_append, List.append_assoc]

/-! ## Joins between aliases -/

/-- What drawing a join between aliases does: nothing, or one more link between the written
names. -/
theorem drawAliasJoin_cases (s : Sketch) (t : JoinTarget) :
    s.drawAliasJoin t = s ∨ ∃ condition,
      s.drawAliasJoin t = (s.markJoin (t.tableAlias?.getD t.table)
        (t.targetTableAlias?.getD t.targetTable)).addLink
          (.ofAliasJoin (tableId (t.tableAlias?.getD t.table))
            (tableId (t.targetTableAlias?.getD t.targetTable)) condition) := by
  unfold drawAliasJoin
  dsimp only
  split
  · exact .inl rfl
  · split
    · exact .inl rfl
    · exact .inr ⟨_, rfl⟩

theorem Drawn.drawAliasJoin (h : Drawn p s) (t : JoinTarget)
    (hsource : p.catalog.Knows (t.tableAlias?.getD t.table))
    (htarget : p.catalog.Knows (t.targetTableAlias?.getD t.targetTable)) :
    Drawn p (s.drawAliasJoin t) := by
  rcases drawAliasJoin_cases s t with heq | ⟨condition, heq⟩
  · rwa [heq]
  · rw [heq]
    obtain ⟨a, ha, hida, hkinda⟩ := h.exists_node hsource
    obtain ⟨b, hb, hidb, hkindb⟩ := h.exists_node htarget
    exact (h.markJoin _ _).addLink (by simp [Link.ofAliasJoin])
      ⟨a, ha, b, hb, hida, hidb, hkinda, hkindb⟩

/-- Both names by which the tables of a relation were written are known. -/
theorem knows_written {c : Catalog} {e : Endpoint} (h : e.Known c) :
    c.Knows (e.alias?.getD e.table) := by
  cases halias : e.alias? with
  | none => exact .inl ((Catalog.isTable_iff _ _).2 h.table)
  | some a => exact .inr ((Catalog.isAlias_iff _ _).2 ⟨_, h.bound a halias⟩)

theorem knows_of_mem_targets {c : Catalog} {rs : List Relation} (h : ∀ r ∈ rs, r.Known c)
    {t : JoinTarget} (ht : t ∈ rs.flatMap Relation.targets) :
    c.Knows (t.tableAlias?.getD t.table) ∧ c.Knows (t.targetTableAlias?.getD t.targetTable) := by
  obtain ⟨r, hr, ht⟩ := List.mem_flatMap.1 ht
  simp only [Relation.targets, List.mem_cons, List.not_mem_nil, or_false] at ht
  rcases ht with rfl | rfl
  · exact ⟨knows_written (h r hr).1, knows_written (h r hr).2⟩
  · exact ⟨knows_written (h r hr).2, knows_written (h r hr).1⟩

private theorem drawAliasJoins_run (targets : List JoinTarget)
    (htargets : ∀ t ∈ targets, p.catalog.Knows (t.tableAlias?.getD t.table) ∧
      p.catalog.Knows (t.targetTableAlias?.getD t.targetTable)) (h : Drawn p s) :
    let d := targets.foldl Sketch.drawAliasJoin s
    Drawn p d ∧ d.nodes = s.nodes ∧ ∃ more, d.links = s.links ++ more ∧
      ∀ l ∈ more, ∃ source target condition, l = .ofAliasJoin source target condition := by
  induction targets generalizing s with
  | nil => exact ⟨h, rfl, [], by simp, by simp⟩
  | cons t targets ih =>
      obtain ⟨hsource, htarget⟩ := htargets t (by simp)
      obtain ⟨hdrawn, hnodes, more, hlinks, hmore⟩ := ih
        (fun t' ht' => htargets t' (by simp [ht'])) (h.drawAliasJoin t hsource htarget)
      rw [List.foldl_cons]
      rcases drawAliasJoin_cases s t with heq | ⟨condition, heq⟩
      · rw [heq] at hnodes hlinks hdrawn ⊢
        exact ⟨hdrawn, hnodes, more, hlinks, hmore⟩
      · rw [heq] at hnodes hlinks hdrawn ⊢
        refine ⟨hdrawn, hnodes, .ofAliasJoin (tableId (t.tableAlias?.getD t.table))
          (tableId (t.targetTableAlias?.getD t.targetTable)) condition :: more, ?_, fun l hl => ?_⟩
        · rw [hlinks]
          simp [addLink, markJoin]
        rcases List.mem_cons.1 hl with rfl | hl
        · exact ⟨_, _, condition, rfl⟩
        · exact hmore l hl

/-- Joins between aliases add links at the end, and nothing else. -/
theorem Drawn.drawAliasJoins (h : Drawn p s) (hp : p.WellFormed) :
    let d := s.drawAliasJoins p.relations
    Drawn p d ∧ d.nodes = s.nodes ∧ ∃ more, d.links = s.links ++ more ∧
      ∀ l ∈ more, ∃ source target condition, l = .ofAliasJoin source target condition :=
  drawAliasJoins_run _ (fun _ ht => knows_of_mem_targets hp.known ht) h

end Sketch

/-! ## Plans -/

namespace Plan

variable {p : Plan}

/-- The sketch before joins between aliases. -/
def joined (p : Plan) : Sketch :=
  (firstsBy Relation.tables p.relations).foldl (Sketch.drawJoin p)
    ((Sketch.empty.drawTables p.catalog).drawFields p)

/-- What is drawn of a well-formed plan. -/
def drawing (p : Plan) (o : Options) : Sketch :=
  if o.drawsAliasJoins && !p.catalog.aliases.isEmpty then p.joined.drawAliasJoins p.relations
  else p.joined

/-- Drawing a well-formed plan succeeds. -/
theorem sketch_eq (h : p.WellFormed) (o : Options) : p.sketch o = .ok (p.drawing o) := by
  obtain ⟨hdrawn, hnone, -⟩ := Sketch.drawn_drawFields h
  have hall : (p.relations.filter fun r =>
      !((Sketch.empty.drawTables p.catalog).drawFields p).joins r) = p.relations := by
    refine List.filter_eq_self.2 fun r _ => ?_
    simp [Sketch.joins, Sketch.hasJoin, hnone]
  have hrun := Sketch.drawRelations_eq h p.relations (fun _ hr => hr) hdrawn
  rw [hall] at hrun
  simp only [sketch, hrun, bind, Except.bind, pure, Except.pure]
  rfl

private theorem mem_relations_of_first {r : Relation}
    (hr : r ∈ firstsBy Relation.tables p.relations) : r ∈ p.relations :=
  (firstsBy_sublist _ _).subset hr

theorem drawn_joined (h : p.WellFormed) : Sketch.Drawn p p.joined :=
  ((Sketch.drawn_drawFields h).1.drawJoins h _ fun _ hr => mem_relations_of_first hr).1

theorem drawn_drawing (h : p.WellFormed) (o : Options) : Sketch.Drawn p (p.drawing o) := by
  unfold drawing
  split
  · exact ((drawn_joined h).drawAliasJoins h).1
  · exact drawn_joined h

theorem nodes_drawing (h : p.WellFormed) (o : Options) : (p.drawing o).nodes = p.joined.nodes := by
  unfold drawing
  split
  · exact ((drawn_joined h).drawAliasJoins h).2.1
  · rfl

/-- The fields that are shown are there. -/
theorem has_of_shown (h : p.WellFormed) (o : Options) {table field : String}
    (hshown : (table, field) ∈ p.shown) : (p.drawing o).has (fieldId table field) = true := by
  obtain ⟨hdrawn, -, hhas⟩ := Sketch.drawn_drawFields h
  obtain ⟨n, hn, hid⟩ := (Sketch.has_iff _ _).1 (hhas _ hshown)
  have hsub := (hdrawn.drawJoins h _ fun _ hr => mem_relations_of_first hr).2.1
  rw [Sketch.has_iff, nodes_drawing h]
  exact ⟨n, hsub.subset hn, hid⟩

/-- Both fields of the first relation of each pair of tables are there. -/
theorem has_of_first (h : p.WellFormed) (o : Options) {r : Relation}
    (hr : r ∈ firstsBy Relation.tables p.relations) :
    (p.drawing o).has (fieldId r.left.table r.left.field) = true ∧
      (p.drawing o).has (fieldId r.right.table r.right.field) = true := by
  have hhas := ((Sketch.drawn_drawFields h).1.drawJoins h _
    fun _ hr => mem_relations_of_first hr).2.2 r hr
  simpa only [Sketch.has, nodes_drawing h, joined] using hhas

/-- The links before joins between aliases, apart from those of fields: the links of aliases, then
the two links of each relation that is the first of its pair of tables. -/
theorem filter_links_joined (h : p.WellFormed) (q : Link → Bool)
    (hfield : ∀ t f, q (.ofField t f) = false) :
    p.joined.links.filter q = (p.catalog.aliases.map fun b => Link.ofAlias b.1 b.2).filter q ++
      ((firstsBy Relation.tables p.relations).flatMap fun r =>
        [r.tableLink, r.fieldLink]).filter q := by
  have hshown : ((Sketch.empty.drawTables p.catalog).drawFields p).links.filter q =
      (p.catalog.aliases.map fun b => Link.ofAlias b.1 b.2).filter q := by
    rw [Sketch.drawFields_eq]
    refine List.foldlRecOn (motive := fun d : Sketch => d.links.filter q = _) p.shown _ ?_ ?_
    · rw [Sketch.drawTables_eq h.catalog]
    · intro d hd column _
      rw [Sketch.filter_links_drawField q hfield, hd]
  exact (Sketch.filter_links_drawJoins q hfield _).trans (congrArg (· ++ _) hshown)

/-- The links of a drawing, apart from those of fields and between aliases. -/
theorem filter_links_drawing (h : p.WellFormed) (o : Options) (q : Link → Bool)
    (hfield : ∀ t f, q (.ofField t f) = false)
    (halias : ∀ source target condition, q (.ofAliasJoin source target condition) = false) :
    (p.drawing o).links.filter q = (p.catalog.aliases.map fun b => Link.ofAlias b.1 b.2).filter q ++
      ((firstsBy Relation.tables p.relations).flatMap fun r =>
        [r.tableLink, r.fieldLink]).filter q := by
  unfold drawing
  split
  · obtain ⟨-, -, more, hlinks, hmore⟩ := (drawn_joined h).drawAliasJoins h
    have hnone : more.filter q = [] := by
      refine List.filter_eq_nil_iff.2 fun l hl => ?_
      obtain ⟨source, target, condition, rfl⟩ := hmore l hl
      simp [halias]
    rw [hlinks, List.filter_append, hnone, List.append_nil, filter_links_joined h q hfield]
  · exact filter_links_joined h q hfield

end Plan

end JoinGraph
