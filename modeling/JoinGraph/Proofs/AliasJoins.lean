import JoinGraph.Proofs.JoinLinks
import JoinGraph.Proofs.TableNodes

/-!
# Joins between aliases

A relation that was written with an alias is drawn a second time, between the names it was written
with.  Both ends of a relation offer it, and pairs of names that are joined already are passed
over, be it tables or names.  Since no alias has the name of a table, the joins between tables
never take the place of one between aliases, and the second end never wins over the first.  So
what is drawn is the first relation of each pair of names, as it is written.

## Main results

* `Sketch.links_drawAliasJoins` — what a run over relations draws.
* `Plan.links_drawing` — the links of a drawing are those before joins between aliases, then these.
* `aliasJoins_graph` — the joins between aliases of a graph.
-/

namespace JoinGraph

namespace Relation

/-- The names by which the tables of a relation were written, without direction. -/
def names (r : Relation) : Sym2 String := s(r.left.written, r.right.written)

/-- The relation was written with an alias, and with two names. -/
def JoinsAlias (r : Relation) : Prop :=
  (r.left.alias?.isSome = true ∨ r.right.alias?.isSome = true) ∧ r.left.written ≠ r.right.written

instance : DecidablePred JoinsAlias := fun r => by unfold JoinsAlias; infer_instance

/-- The link between the names by which the tables of a relation were written. -/
def aliasLink (r : Relation) : Link :=
  .ofAliasJoin (tableId r.left.written) (tableId r.right.written)
    (r.left.written ++ "." ++ r.left.field ++ " = " ++ r.right.written ++ "." ++ r.right.field)

end Relation

/-! ## Runs over relations -/

namespace Sketch

theorem pairOf_comm (a b : String) : pairOf a b = pairOf b a :=
  (pairOf_eq_iff a b b a).2 Sym2.eq_swap

theorem hasJoin_comm (s : Sketch) (a b : String) : s.hasJoin a b = s.hasJoin b a := by
  rw [hasJoin, hasJoin, pairOf_comm]

/-- What one end of a relation draws. -/
theorem drawAliasJoin_target (s : Sketch) (own other : Endpoint) (isSource : Bool) :
    s.drawAliasJoin (Relation.target own other isSource) =
      if ((own.alias?.isSome = true ∨ other.alias?.isSome = true) ∧ own.written ≠ other.written) ∧
          s.hasJoin own.written other.written = false then
        (s.markJoin own.written other.written).addLink (.ofAliasJoin (tableId own.written)
          (tableId other.written)
          (own.written ++ "." ++ own.field ++ " = " ++ other.written ++ "." ++ other.field))
      else s := by
  have hnone : ∀ a : Option String, a.isNone = !a.isSome := fun a => by cases a <;> rfl
  simp only [drawAliasJoin, Relation.target, Endpoint.written, hnone, Bool.and_eq_true,
    Bool.not_eq_true', Bool.or_eq_true]
  grind

/-- Both ends of a relation draw one link, if the relation has an alias and its names are not
joined. -/
theorem foldl_targets (s : Sketch) (r : Relation) : r.targets.foldl drawAliasJoin s =
    if r.JoinsAlias ∧ s.hasJoin r.left.written r.right.written = false then
      (s.markJoin r.left.written r.right.written).addLink r.aliasLink
    else s := by
  have hfirst : s.drawAliasJoin (Relation.target r.left r.right true) =
      if r.JoinsAlias ∧ s.hasJoin r.left.written r.right.written = false then
        (s.markJoin r.left.written r.right.written).addLink r.aliasLink
      else s := drawAliasJoin_target s r.left r.right true
  -- The second end draws nothing where the first one has drawn, or had nothing to draw.
  have hsecond : ∀ d : Sketch,
      (r.JoinsAlias → d.hasJoin r.left.written r.right.written = true) →
        d.drawAliasJoin (Relation.target r.right r.left false) = d := by
    intro d hd
    rw [drawAliasJoin_target, if_neg]
    rintro ⟨⟨halias, hne⟩, hfree⟩
    have hjoins : r.JoinsAlias := ⟨halias.symm, hne.symm⟩
    rw [hasJoin_comm, hd hjoins] at hfree
    exact Bool.noConfusion hfree
  rw [Relation.targets, List.foldl_cons, List.foldl_cons, List.foldl_nil, hfirst]
  split
  · exact hsecond _ fun _ => by simp [hasJoin, addLink, markJoin]
  · next hnot => exact hsecond s fun hjoins => by simpa [hjoins] using hnot

/-- Draws the link between the names of a relation, unless they are joined. -/
def drawNames (s : Sketch) (r : Relation) : Sketch :=
  if s.hasJoin r.left.written r.right.written then s
  else (s.markJoin r.left.written r.right.written).addLink r.aliasLink

theorem drawAliasJoins_eq (s : Sketch) (rs : List Relation) :
    s.drawAliasJoins rs = (rs.filter fun r => decide r.JoinsAlias).foldl drawNames s := by
  have hstep : (fun (d : Sketch) (r : Relation) => r.targets.foldl drawAliasJoin d) =
      fun d r => if decide r.JoinsAlias = true then d.drawNames r else d := by
    funext d r
    rw [foldl_targets, drawNames]
    by_cases hjoins : r.JoinsAlias <;> cases hd : d.hasJoin r.left.written r.right.written <;>
      simp [hjoins]
  rw [drawAliasJoins, List.foldl_flatMap, hstep, List.foldl_filter]

theorem drawNames_of_free {s : Sketch} {r : Relation}
    (h : s.hasJoin r.left.written r.right.written = false) :
    s.drawNames r = (s.markJoin r.left.written r.right.written).addLink r.aliasLink := by
  simp [drawNames, h]

/-- A run over relations draws the first relation of each pair of names that was not joined. -/
theorem links_drawAliasJoins (s : Sketch) (rs : List Relation) : (s.drawAliasJoins rs).links =
    s.links ++ (firstsBy Relation.names ((rs.filter fun r => decide r.JoinsAlias).filter fun r =>
      !s.hasJoin r.left.written r.right.written)).map Relation.aliasLink := by
  have hrun := view_foldl (fun r : Relation => pairOf r.left.written r.right.written) drawNames
    (fun d pair => d.joined.contains pair) Sketch.links Relation.aliasLink (fun d r hd => if_pos hd)
    (fun d r hd => by
      rw [drawNames_of_free hd]
      rfl)
    (fun d r pair hd => by
      rw [drawNames_of_free hd]
      simp [addLink, markJoin])
    (rs.filter fun r => decide r.JoinsAlias) s
  have hkey : ∀ a b : Relation,
      pairOf a.left.written a.right.written = pairOf b.left.written b.right.written ↔
        a.names = b.names := fun a b => pairOf_eq_iff _ _ _ _
  rw [drawAliasJoins_eq, hrun, firstsBy_congr hkey]
  rfl

end Sketch

/-! ## Drawings -/

/-- An end of a relation that carries an alias was written with it, and otherwise with its table. -/
theorem Endpoint.Known.written_cases {c : Catalog} {e : Endpoint} (h : e.Known c) :
    (e.alias?.isSome = true ∧ (e.written, e.table) ∈ c.aliases) ∨
      (e.alias?.isSome = false ∧ e.written = e.table ∧ e.written ∈ c.tables) := by
  cases halias : e.alias? with
  | none => exact .inr ⟨rfl, by simp [Endpoint.written, halias], by
      simpa [Endpoint.written, halias] using h.table⟩
  | some a => exact .inl ⟨rfl, by simpa [Endpoint.written, halias] using h.bound a halias⟩

/-- A relation that is drawn between names is not one between two tables. -/
theorem Relation.JoinsAlias.not_tables {c : Catalog} (h : c.WellFormed) {r : Relation}
    (hr : r.Known c) (hjoins : r.JoinsAlias) :
    ¬ (r.left.written ∈ c.tables ∧ r.right.written ∈ c.tables) := by
  rintro ⟨hleft, hright⟩
  rcases hjoins.1 with halias | halias
  · rcases hr.1.written_cases with ⟨-, hbound⟩ | ⟨hnone, -⟩
    · exact h.disjoint _ hbound hleft
    · simp [hnone] at halias
  · rcases hr.2.written_cases with ⟨-, hbound⟩ | ⟨hnone, -⟩
    · exact h.disjoint _ hbound hright
    · simp [hnone] at halias

namespace Plan

variable {p : Plan}

/-- The links between names, of which one is an alias. -/
def aliasLinks (p : Plan) : List Link :=
  (firstsBy Relation.names (p.relations.filter fun r => decide r.JoinsAlias)).map Relation.aliasLink

/-- Before joins between aliases, only tables are joined. -/
theorem mem_tables_of_joined (h : p.WellFormed) :
    ∀ pair ∈ p.joined.joined, pair.1 ∈ p.catalog.tables ∧ pair.2 ∈ p.catalog.tables := by
  have hstart : ((Sketch.empty.drawTables p.catalog).drawFields p).joined = [] :=
    (Sketch.drawn_drawFields h).2.1
  refine List.foldlRecOn (motive := fun d : Sketch => ∀ pair ∈ d.joined,
    pair.1 ∈ p.catalog.tables ∧ pair.2 ∈ p.catalog.tables) _ _ (by simp [hstart]) ?_
  intro d hd r hr pair hpair
  have hknown := h.known r ((firstsBy_sublist _ _).subset hr)
  have hmarked : (Sketch.drawJoin p d r).joined =
      Sketch.pairOf r.left.table r.right.table :: d.joined :=
    (Sketch.drawField_extends p _ _ _ _).2.trans (Sketch.drawField_extends p _ _ _ _).2
  rw [hmarked, List.mem_cons] at hpair
  rcases hpair with rfl | hpair
  · unfold Sketch.pairOf
    split
    · exact ⟨hknown.1.table, hknown.2.table⟩
    · exact ⟨hknown.2.table, hknown.1.table⟩
  · exact hd pair hpair

/-- The joins between tables leave every pair of names with an alias free. -/
theorem hasJoin_joined_of_joinsAlias (h : p.WellFormed) {r : Relation} (hr : r ∈ p.relations)
    (hjoins : r.JoinsAlias) : p.joined.hasJoin r.left.written r.right.written = false := by
  rw [Bool.eq_false_iff]
  intro hjoin
  have hmem := mem_tables_of_joined h _ (List.contains_iff_mem.1 hjoin)
  refine hjoins.not_tables h.catalog (h.known r hr) ?_
  unfold Sketch.pairOf at hmem
  split at hmem
  · exact hmem
  · exact hmem.symm

/-- The links of a drawing are those before joins between aliases, then these, if they are asked
for. -/
theorem links_drawing (h : p.WellFormed) (o : Options) : (p.drawing o).links =
    p.joined.links ++ if o.drawsAliasJoins then p.aliasLinks else [] := by
  have hfree : ((p.relations.filter fun r => decide r.JoinsAlias).filter fun r =>
      !p.joined.hasJoin r.left.written r.right.written) =
        p.relations.filter fun r => decide r.JoinsAlias := by
    refine List.filter_eq_self.2 fun r hr => ?_
    obtain ⟨hr, hjoins⟩ := List.mem_filter.1 hr
    simp [hasJoin_joined_of_joinsAlias h hr (of_decide_eq_true hjoins)]
  have hrun := Sketch.links_drawAliasJoins p.joined p.relations
  rw [hfree] at hrun
  unfold drawing
  cases hdraws : o.drawsAliasJoins with
  | false => simp
  | true =>
      cases haliases : p.catalog.aliases with
      | cons _ _ => simpa [aliasLinks] using hrun
      | nil =>
          -- Without aliases there is nothing to join.
          have hnone : (p.relations.filter fun r => decide r.JoinsAlias) = [] := by
            refine List.filter_eq_nil_iff.2 fun r hr hjoins => ?_
            have hknown := h.known r hr
            have hwritten : ∀ e : Endpoint, e.Known p.catalog → e.written ∈ p.catalog.tables := by
              intro e he
              rcases he.written_cases with ⟨-, hbound⟩ | ⟨-, -, hmem⟩
              · simp [haliases] at hbound
              · exact hmem
            exact (of_decide_eq_true hjoins).not_tables h.catalog hknown
              ⟨hwritten _ hknown.1, hwritten _ hknown.2⟩
          simp [aliasLinks, hnone]

/-- The joins between aliases are flagged, and nothing else is. -/
theorem filter_isAliasJoin_drawing (h : p.WellFormed) (o : Options) :
    (p.drawing o).links.filter Link.isAliasJoin =
      if o.drawsAliasJoins then p.aliasLinks else [] := by
  have hbefore : p.joined.links.filter Link.isAliasJoin = [] := by
    rw [filter_links_joined h _ fun _ _ => rfl, List.append_eq_nil_iff]
    constructor
    · refine List.filter_eq_nil_iff.2 fun l hl => ?_
      obtain ⟨b, -, rfl⟩ := List.mem_map.1 hl
      exact Bool.false_ne_true
    · refine List.filter_eq_nil_iff.2 fun l hl => ?_
      obtain ⟨r, -, hl⟩ := List.mem_flatMap.1 hl
      rcases List.mem_pair.1 hl with rfl | rfl <;> exact Bool.false_ne_true
  have hall : p.aliasLinks.filter Link.isAliasJoin = p.aliasLinks := by
    refine List.filter_eq_self.2 fun l hl => ?_
    obtain ⟨r, -, rfl⟩ := List.mem_map.1 hl
    rfl
  rw [links_drawing h, List.filter_append, hbefore, List.nil_append]
  split
  · exact hall
  · rfl

end Plan

/-! ## Statements -/

namespace WrittenJoin

/-- The names that the join relates, without direction. -/
def names (w : WrittenJoin) : Sym2 String := s(w.left, w.right)

/-- One of the names is an alias, and they differ. -/
def JoinsAlias (c : Catalog) (w : WrittenJoin) : Prop :=
  (c.isAlias w.left = true ∨ c.isAlias w.right = true) ∧ w.left ≠ w.right

instance (c : Catalog) : DecidablePred (JoinsAlias c) := fun w => by
  unfold JoinsAlias
  infer_instance

/-- The link between the names of the join. -/
def aliasLink (w : WrittenJoin) : Link :=
  .ofAliasJoin (tableId w.left) (tableId w.right) w.condition

end WrittenJoin

/-- The complete joins of the statement that are the first between their names, where one of these
is an alias. -/
def Statement.aliasJoins (s : Statement) : List WrittenJoin :=
  firstsBy WrittenJoin.names
    ((completeJoins s.joins).filter fun w => decide (w.JoinsAlias s.catalog))

/-- The aliases are the names that stand for another. -/
theorem Catalog.WellFormed.isAlias_iff_resolve_ne {c : Catalog} (h : c.WellFormed) (q : String) :
    c.isAlias q = true ↔ q ≠ c.resolve q := by
  constructor
  · intro halias
    obtain ⟨t, hb⟩ := (isAlias_iff c q).1 halias
    rw [h.resolve_alias hb]
    rintro rfl
    exact h.disjoint _ hb (h.targets _ hb)
  · exact fun hne => (isAlias_iff c q).2 ⟨_, mem_aliases_of_resolve_ne hne⟩

/-- An end is written as its qualifier. -/
theorem written_endpoint (c : Catalog) (q column : String) :
    (Relation.endpoint c q column).written = q := by
  simp only [Endpoint.written, Relation.endpoint]
  split
  · next h => exact h.symm
  · rfl

theorem isSome_alias?_endpoint {c : Catalog} (h : c.WellFormed) (q column : String) :
    (Relation.endpoint c q column).alias?.isSome = c.isAlias q := by
  rw [Bool.eq_iff_iff, h.isAlias_iff_resolve_ne, Relation.endpoint]
  split
  · next hq => simpa using hq
  · next hq => simpa using hq

theorem joinsAlias_ofWritten {c : Catalog} (h : c.WellFormed) (w : WrittenJoin) :
    (Relation.ofWritten c w).JoinsAlias ↔ w.JoinsAlias c := by
  simp only [Relation.JoinsAlias, WrittenJoin.JoinsAlias, Relation.ofWritten, written_endpoint,
    isSome_alias?_endpoint h]

/-- A guess is written with no alias. -/
theorem not_joinsAlias_of_mem_guesses {c : Catalog} (h : c.WellFormed) {r : Relation}
    (hr : r ∈ Relation.guesses c) : ¬ r.JoinsAlias := by
  rw [guesses_eq h] at hr
  obtain ⟨p, -, rfl⟩ := List.mem_map.1 hr
  simp [Relation.JoinsAlias, Relation.guess]

/-- The links between names are those of the first complete joins between them. -/
theorem aliasLinks_plan (s : Statement) (o : Options) :
    (s.plan o).aliasLinks = s.aliasJoins.map WrittenJoin.aliasLink := by
  have hwf := wellFormed_catalog s
  rw [Plan.aliasLinks, relations_plan, Statement.aliasJoins]
  by_cases hjoins : completeJoins s.joins = []
  · have hnone : ((relationsOf s.catalog [] o).filter fun r => decide r.JoinsAlias) = [] := by
      refine List.filter_eq_nil_iff.2 fun r hr hjoin => ?_
      rw [relationsOf_nil] at hr
      split at hr
      · exact not_joinsAlias_of_mem_guesses hwf hr (of_decide_eq_true hjoin)
      · simp at hr
    simp [hjoins, hnone]
  · have hfilter : ((completeJoins s.joins).map (Relation.ofWritten s.catalog)).filter
        (fun r => decide r.JoinsAlias) =
          ((completeJoins s.joins).filter fun w => decide (w.JoinsAlias s.catalog)).map
            (Relation.ofWritten s.catalog) := by
      rw [List.filter_map]
      congr 1
      exact List.filter_congr fun w _ => by simp [joinsAlias_ofWritten hwf]
    have hnames : (fun w => (Relation.ofWritten s.catalog w).names) = WrittenJoin.names := by
      funext w
      simp only [Relation.names, WrittenJoin.names, Relation.ofWritten, written_endpoint]
    have hlink : Relation.aliasLink ∘ Relation.ofWritten s.catalog = WrittenJoin.aliasLink := by
      funext w
      simp only [Function.comp_apply, Relation.aliasLink, Relation.ofWritten, written_endpoint]
      rfl
    rw [relationsOf_of_ne_nil _ hjoins, hfilter, firstsBy_map, hnames, List.map_map, hlink]

/-! ## Graphs -/

/-- The flagged links of a graph are the joins between the names of `aliasJoins`. -/
theorem filter_isAliasJoin_namedGraph (s : Statement) (o : Options) :
    (s.namedGraph o).links.filter Link.isAliasJoin =
      if o.drawsAliasJoins then s.aliasJoins.map WrittenJoin.aliasLink else [] := by
  by_cases htables : s.catalog.tables = []
  · have hnone : completeJoins s.joins = [] := by
      refine List.eq_nil_iff_forall_not_mem.2 fun w hw => ?_
      simpa [htables] using (wellFormed_catalog s).resolve_mem_tables (knows_catalog s w hw).1
    rw [Statement.namedGraph, if_pos htables, Statement.aliasJoins, hnone]
    simp [Graph.placeholder, Graph.ofSingleField, Link.ofField, Link.isAliasJoin]
  · rw [Statement.namedGraph, if_neg htables, Statement.drawnGraph, Sketch.graph,
      Plan.filter_isAliasJoin_drawing (wellFormed_plan s o), aliasLinks_plan]

/-- An alias of the catalog is a name that the statement binds. -/
theorem isAlias_catalog_iff (s : Statement) (q : String) :
    s.catalog.isAlias q = true ↔ ∃ t, s.Binds q t := by
  simp only [Catalog.isAlias_iff, mem_aliases_catalog_iff]

theorem joinsAlias_catalog_iff (s : Statement) (w : WrittenJoin) : w.JoinsAlias s.catalog ↔
    ((∃ t, s.Binds w.left t) ∨ ∃ t, s.Binds w.right t) ∧ w.left ≠ w.right := by
  rw [WrittenJoin.JoinsAlias, isAlias_catalog_iff, isAlias_catalog_iff]

/-- Whether a join is drawn between its names depends on the names only. -/
theorem WrittenJoin.JoinsAlias.of_names {c : Catalog} {v w : WrittenJoin} (h : w.JoinsAlias c)
    (hnames : v.names = w.names) : v.JoinsAlias c := by
  rcases Sym2.eq_iff.1 hnames with ⟨hleft, hright⟩ | ⟨hleft, hright⟩
  · rwa [JoinsAlias, hleft, hright]
  · rw [JoinsAlias, hleft, hright]
    exact ⟨h.1.symm, h.2.symm⟩

/-- A complete join is one of `aliasJoins` if one of its names is an alias, they differ, and no join
before it has the same names. -/
theorem mem_aliasJoins_iff (s : Statement) (w : WrittenJoin) : w ∈ s.aliasJoins ↔
    w.JoinsAlias s.catalog ∧ ∃ before after, completeJoins s.joins = before ++ w :: after ∧
      ∀ v ∈ before, v.names ≠ w.names := by
  rw [Statement.aliasJoins, mem_firstsBy_iff]
  constructor
  · rintro ⟨before, after, hsplit, hfirst⟩
    obtain ⟨l, l', hl, hbefore, hrest⟩ := List.filter_eq_append_iff.1 hsplit
    obtain ⟨m, l'', rfl, hnone, hw, -⟩ := List.filter_eq_cons_iff.1 hrest
    have hjoins : w.JoinsAlias s.catalog := of_decide_eq_true hw
    refine ⟨hjoins, l ++ m, l'', by simp [hl], fun v hv hnames => ?_⟩
    have hsame := hjoins.of_names hnames
    rcases List.mem_append.1 hv with hv | hv
    · exact hfirst v (hbefore ▸ List.mem_filter.2 ⟨hv, decide_eq_true hsame⟩) hnames
    · exact hnone v hv (decide_eq_true hsame)
  · rintro ⟨hjoins, before, after, hsplit, hfirst⟩
    refine ⟨before.filter fun v => decide (v.JoinsAlias s.catalog),
      after.filter fun v => decide (v.JoinsAlias s.catalog), ?_,
      fun v hv => hfirst v (List.mem_filter.1 hv).1⟩
    rw [hsplit, List.filter_append, List.filter_cons_of_pos (by exact decide_eq_true hjoins)]

/-- No two tables have the names of a join that is drawn between its names. -/
theorem WrittenJoin.JoinsAlias.not_tables {c : Catalog} (h : c.WellFormed) {w : WrittenJoin}
    (hjoins : w.JoinsAlias c) : ¬ (w.left ∈ c.tables ∧ w.right ∈ c.tables) := by
  rintro ⟨hleft, hright⟩
  rcases hjoins.1 with halias | halias
  · simp [h.isAlias_of_mem_tables hleft] at halias
  · simp [h.isAlias_of_mem_tables hright] at halias

/-- The joins between tables end at tables, not at aliases. -/
theorem tables_of_mem_tableJoins {s : Statement} {o : Options} {l : Link}
    (hjoins : completeJoins s.joins ≠ []) (hl : l ∈ (s.namedGraph o).tableJoins) :
    ∃ a ∈ s.catalog.tables, ∃ b ∈ s.catalog.tables, l.source = tableId a ∧
      l.target = tableId b := by
  have hwf := wellFormed_catalog s
  rw [tableJoins_namedGraph hjoins] at hl
  obtain ⟨w, hw, rfl⟩ := List.mem_map.1 hl
  obtain ⟨hleft, hright⟩ := knows_catalog s w ((firstsBy_sublist _ _).subset hw)
  exact ⟨_, hwf.resolve_mem_tables hleft, _, hwf.resolve_mem_tables hright, rfl, rfl⟩

/-- If joins between aliases are drawn, they are, in order, one for each two different names that
some complete join relates and of which one is an alias.  It goes between these names in the
direction and with the text of the first such join.  None of them joins a name to itself, and none
joins the same two nodes as a join between tables. -/
theorem aliasJoins_graph (s : Statement) (o : Options)
    (hnamed : ∀ t ∈ s.tables, Text.trim t.name ≠ "") (hdraws : o.drawsAliasJoins = true) :
    let joins := (s.graph o).links.filter Link.isAliasJoin
    let IsAliased := fun w : WrittenJoin =>
      ((∃ t, s.Binds w.left t) ∨ ∃ t, s.Binds w.right t) ∧ w.left ≠ w.right
    joins = s.aliasJoins.map (fun w => .ofAliasJoin (tableId w.left) (tableId w.right)
        (w.left ++ "." ++ w.leftColumn ++ " = " ++ w.right ++ "." ++ w.rightColumn)) ∧
      s.aliasJoins.Sublist (completeJoins s.joins) ∧ (s.aliasJoins.map WrittenJoin.names).Nodup ∧
      (∀ w ∈ completeJoins s.joins, IsAliased w → ∃ first ∈ s.aliasJoins, first.names = w.names) ∧
      (∀ w, w ∈ s.aliasJoins ↔ IsAliased w ∧ ∃ before after,
        completeJoins s.joins = before ++ w :: after ∧ ∀ v ∈ before, v.names ≠ w.names) ∧
      (∀ l ∈ joins, l.source ≠ l.target) ∧
      ∀ l ∈ joins, ∀ l' ∈ (s.graph o).tableJoins, s(l.source, l.target) ≠
        s(l'.source, l'.target) := by
  have hjoins : (s.graph o).links.filter Link.isAliasJoin =
      s.aliasJoins.map WrittenJoin.aliasLink := by
    rw [graph_of_named hnamed, filter_isAliasJoin_namedGraph, if_pos hdraws]
  have haliased : ∀ w ∈ s.aliasJoins, w.JoinsAlias s.catalog :=
    fun w hw => ((mem_aliasJoins_iff s w).1 hw).1
  simp only [hjoins, ← joinsAlias_catalog_iff]
  refine ⟨rfl, (firstsBy_sublist _ _).trans List.filter_sublist, nodup_map_firstsBy _ _,
    fun w hw hjoin => exists_mem_firstsBy _ (List.mem_filter.2 ⟨hw, decide_eq_true hjoin⟩),
    mem_aliasJoins_iff s, fun l hl => ?_, fun l hl l' hl' => ?_⟩
  · obtain ⟨w, hw, rfl⟩ := List.mem_map.1 hl
    exact fun h => (haliased w hw).2 ((tableId_inj _ _).1 h)
  · obtain ⟨w, hw, rfl⟩ := List.mem_map.1 hl
    have hcomplete : completeJoins s.joins ≠ [] :=
      List.ne_nil_of_mem (List.mem_filter.1 ((firstsBy_sublist _ _).subset hw)).1
    rw [graph_of_named hnamed] at hl'
    obtain ⟨a, ha, b, hb, hsource, htarget⟩ := tables_of_mem_tableJoins hcomplete hl'
    have hnot := (haliased w hw).not_tables (wellFormed_catalog s)
    rw [hsource, htarget]
    intro h
    simp only [WrittenJoin.aliasLink, Link.ofAliasJoin, Sym2.eq_iff, tableId_inj] at h
    rcases h with ⟨hleft, hright⟩ | ⟨hleft, hright⟩
    · exact hnot ⟨hleft ▸ ha, hright ▸ hb⟩
    · exact hnot ⟨hleft ▸ hb, hright ▸ ha⟩

/-- Joins between two aliases, its mirror image, an alias and the table of the other, an alias and
itself, and two tables. -/
def aliasedJoins : Statement where
  tables := [⟨"users", some "u"⟩, ⟨"orders", some "o"⟩]
  joins :=
    [⟨"orders", none, some ⟨some "users", "id"⟩, some ⟨some "orders", "user_id"⟩⟩,
      ⟨"orders", none, some ⟨some "u", "id"⟩, some ⟨some " o", "user_id"⟩⟩,
      ⟨"orders", none, some ⟨some "o", "buyer"⟩, some ⟨some "u", "id"⟩⟩,
      ⟨"users", none, some ⟨some "orders", "user_id"⟩, some ⟨some "u", "id "⟩⟩,
      ⟨"users", none, some ⟨some "u", "boss"⟩, some ⟨some "u", "id"⟩⟩]
  projected := []
  condition := none

/-- Two of the five joins are drawn between their names, as they are written. -/
theorem aliasJoins_graph_aliased :
    (∀ t ∈ aliasedJoins.tables, Text.trim t.name ≠ "") ∧ Options.default.drawsAliasJoins = true ∧
      (aliasedJoins.graph .default).links.filter Link.isAliasJoin =
        [.ofAliasJoin "table:u" "table:o" "u.id = o.user_id",
          .ofAliasJoin "table:orders" "table:u" "orders.user_id = u.id"] := by
  have hnamed : ∀ t ∈ aliasedJoins.tables, Text.trim t.name ≠ "" := by decide
  have hdraws : Options.default.drawsAliasJoins = true := rfl
  have hfirst : aliasedJoins.aliasJoins =
      [⟨"u", "id", "o", "user_id"⟩, ⟨"orders", "user_id", "u", "id"⟩] := by decide +kernel
  obtain ⟨hjoins, -⟩ := aliasJoins_graph aliasedJoins .default hnamed hdraws
  rw [hfirst] at hjoins
  exact ⟨hnamed, hdraws, hjoins.trans (by decide)⟩

end JoinGraph
