import JoinGraph.Proofs.Outcome

/-!
# What the check of a graph decides

A graph is consistent if its links end at nodes, and each field has one link to a table, which is
the one that the field names.  `Graph.check` goes through the links and then through the fields,
and tells the first that is wrong.  Of a field it counts the links, and it looks for a node with
the identifier of the table that is named; it asks neither where the link ends nor whether that
node is a table.  So it lets more graphs pass than the consistent ones, though no such graph is
ever drawn.

## Main results

* `check_eq_ok_iff`, `check_eq_error_iff` — which graphs pass, and which fault is told of the
  others.
* `consistent_iff` — what a graph that passes may still lack.
* `check_graph` — the check on all graphs, and on those that are drawn.
-/

namespace JoinGraph

namespace Graph

/-! ## Consistent graphs -/

/-- Both ends of the link are nodes. -/
def Ends (g : Graph) (l : Link) : Prop :=
  (∃ a ∈ g.nodes, a.id = l.source) ∧ ∃ b ∈ g.nodes, b.id = l.target

/-- The links that attach a field to tables. -/
def attaching (g : Graph) (field : Node) : List Link :=
  (g.linksOf .fieldTable).filter (·.source == field.id)

/-- Some node has the identifier of the table, and is a table. -/
def HasTable (g : Graph) (table : String) : Prop :=
  ∃ owner ∈ g.nodes, owner.id = tableId table ∧ owner.kind = .table

/-- Links end at nodes, and each field is attached once, to the table that it names. -/
structure Consistent (g : Graph) : Prop where
  links : ∀ l ∈ g.links, g.Ends l
  fields : ∀ n ∈ g.fields, ∃ table, n.table? = some table ∧ g.HasTable table ∧
    ∃ l, g.attaching n = [l] ∧ l.target = tableId table

/-- The field is attached once, and some node has the identifier of the table that it names. -/
def Attaches (g : Graph) (field : Node) : Prop :=
  (∃ l, g.attaching field = [l]) ∧ ∃ owner ∈ g.nodes, owner.id = tableId (ownerOf field)

/-- What the check does not ask: the field names a table, and all that it is attached to is that
table. -/
def Agrees (g : Graph) (field : Node) : Prop :=
  ∃ table, field.table? = some table ∧ g.HasTable table ∧
    ∀ l ∈ g.attaching field, l.target = tableId table

/-- The first fault: a link that does not end at nodes, or if there is none, a field that is not
attached. -/
inductive FirstFault (g : Graph) : GraphFault → Prop where
  | link {front back : List Link} {l : Link} (split : g.links = front ++ l :: back)
      (before : ∀ l' ∈ front, g.Ends l') (fault : ¬ g.Ends l) :
      FirstFault g (.danglingLink l.kind l.source l.target)
  | field {front back : List Node} {n : Node} (links : ∀ l ∈ g.links, g.Ends l)
      (split : g.fields = front ++ n :: back) (before : ∀ n' ∈ front, g.Attaches n')
      (fault : ¬ g.Attaches n) : FirstFault g (.orphanField n.id (ownerOf n))

/-! ## The check -/

theorem ends_iff (g : Graph) (l : Link) :
    (g.has l.source && g.has l.target) = true ↔ g.Ends l := by
  rw [Bool.and_eq_true, has_iff, has_iff, Ends]

theorem isOwned_iff (g : Graph) (field : Node) : g.isOwned field = true ↔ g.Attaches field := by
  rw [isOwned, Bool.and_eq_true, beq_iff_eq, List.length_eq_one_iff, has_iff]
  rfl

theorem danglingLink?_eq_none_iff (g : Graph) :
    g.danglingLink? = none ↔ ∀ l ∈ g.links, g.Ends l := by
  simp only [danglingLink?, List.find?_eq_none, Bool.not_eq_true, Bool.not_eq_false', ends_iff]

theorem danglingLink?_eq_some_iff (g : Graph) (l : Link) : g.danglingLink? = some l ↔
    ∃ front back, g.links = front ++ l :: back ∧ (∀ l' ∈ front, g.Ends l') ∧ ¬ g.Ends l := by
  simp only [danglingLink?, List.find?_eq_some_iff_append, Bool.not_eq_true', ← Bool.not_eq_true,
    ends_iff, not_not]
  grind

theorem orphanField?_eq_none_iff (g : Graph) :
    g.orphanField? = none ↔ ∀ n ∈ g.fields, g.Attaches n := by
  simp only [orphanField?, List.find?_eq_none, Bool.not_eq_true, Bool.not_eq_false', isOwned_iff]

theorem orphanField?_eq_some_iff (g : Graph) (n : Node) : g.orphanField? = some n ↔
    ∃ front back, g.fields = front ++ n :: back ∧ (∀ n' ∈ front, g.Attaches n') ∧
      ¬ g.Attaches n := by
  simp only [orphanField?, List.find?_eq_some_iff_append, Bool.not_eq_true', ← Bool.not_eq_true,
    isOwned_iff, not_not]
  grind

/-- A graph passes if its links end at nodes and its fields are attached. -/
theorem check_eq_ok_iff (g : Graph) :
    g.check = .ok () ↔ (∀ l ∈ g.links, g.Ends l) ∧ ∀ n ∈ g.fields, g.Attaches n := by
  rw [← danglingLink?_eq_none_iff, ← orphanField?_eq_none_iff, check]
  cases g.danglingLink? <;> cases g.orphanField? <;> simp

/-- The fault that is told is the first one. -/
theorem check_eq_error_iff (g : Graph) (fault : GraphFault) :
    g.check = .error fault ↔ g.FirstFault fault := by
  constructor
  · intro h
    cases hlink : g.danglingLink? with
    | some l =>
        obtain ⟨front, back, hsplit, hbefore, hfault⟩ := (danglingLink?_eq_some_iff g l).1 hlink
        simp only [check, hlink, Except.error.injEq] at h
        exact h ▸ .link hsplit hbefore hfault
    | none =>
        cases hfield : g.orphanField? with
        | some n =>
            obtain ⟨front, back, hsplit, hbefore, hfault⟩ := (orphanField?_eq_some_iff g n).1 hfield
            simp only [check, hlink, hfield, Except.error.injEq] at h
            exact h ▸ .field ((danglingLink?_eq_none_iff g).1 hlink) hsplit hbefore hfault
        | none => simp [check, hlink, hfield] at h
  · intro h
    cases h with
    | link hsplit hbefore hfault =>
        rw [check, (danglingLink?_eq_some_iff g _).2 ⟨_, _, hsplit, hbefore, hfault⟩]
    | field hlinks hsplit hbefore hfault =>
        rw [check, (danglingLink?_eq_none_iff g).2 hlinks,
          (orphanField?_eq_some_iff g _).2 ⟨_, _, hsplit, hbefore, hfault⟩]

/-! ## The check and consistency -/

/-- A graph is consistent if it passes and its fields agree with their links. -/
theorem consistent_iff (g : Graph) :
    g.Consistent ↔ g.check = .ok () ∧ ∀ n ∈ g.fields, g.Agrees n := by
  rw [check_eq_ok_iff]
  constructor
  · intro h
    refine ⟨⟨h.links, fun n hn => ?_⟩, fun n hn => ?_⟩
    · obtain ⟨table, htable, ⟨owner, howner, hid, -⟩, l, hlinks, -⟩ := h.fields n hn
      have hnamed : ownerOf n = table := by rw [ownerOf, htable, Option.getD_some]
      exact ⟨⟨l, hlinks⟩, owner, howner, hnamed ▸ hid⟩
    · obtain ⟨table, htable, howner, l, hlinks, htarget⟩ := h.fields n hn
      refine ⟨table, htable, howner, fun l' hl' => ?_⟩
      rw [hlinks] at hl'
      rw [List.mem_singleton.1 hl', htarget]
  · rintro ⟨⟨hlinks, hattached⟩, hagrees⟩
    refine ⟨hlinks, fun n hn => ?_⟩
    obtain ⟨⟨l, hl⟩, -⟩ := hattached n hn
    obtain ⟨table, htable, howner, htargets⟩ := hagrees n hn
    exact ⟨table, htable, howner, l, hl, htargets l (hl ▸ List.mem_singleton_self l)⟩

/-- Well-built graphs are consistent. -/
theorem WellBuilt.consistent {g : Graph} (h : g.WellBuilt) : g.Consistent where
  links := by
    intro l hl
    obtain ⟨a, ha, b, hb, hsource, htarget, -⟩ := h.links_fit l hl
    exact ⟨⟨a, ha, hsource⟩, b, hb, htarget⟩
  fields := by
    intro n hn
    obtain ⟨hmem, hkind⟩ := List.mem_filter.1 hn
    obtain ⟨table, htable, ⟨l, hlinks, htarget⟩, ⟨owner, howner, hid, howned, -⟩, -⟩ :=
      h.fields_owned n hmem (beq_iff_eq.1 hkind)
    have hattaching : g.attaching n = [l] := by
      rw [attaching, linksOf, List.filter_filter, ← hlinks]
      simp only [Bool.and_comm]
    exact ⟨table, htable, ⟨owner, howner, hid, howned⟩, l, hattaching, htarget⟩

/-- Drawn graphs are consistent: those of statements, and those that stand for something else. -/
theorem consistent_drawn (s : Statement) (o : Options) : (s.graph o).Consistent := by
  rcases exists_firstBlank_or s.tables with ⟨i, hi⟩ | hnamed
  · rw [Statement.graph, draw_of_firstBlank hi o]
    exact (wellBuilt_ofSingleField _ _ _ _).consistent
  · rw [graph_of_named hnamed o]
    exact (wellBuilt_namedGraph s o).consistent

end Graph

/-- A graph passes the check exactly if its links end at nodes, and each of its fields has one
link to a table and names what is the identifier of a node; of any other graph the first fault is
told.  A graph is consistent exactly if besides each field names a table, and its link leads to
the one that it names.  All drawn graphs are consistent. -/
theorem check_graph (g : Graph) :
    (g.check = .ok () ↔ (∀ l ∈ g.links, g.Ends l) ∧ ∀ n ∈ g.fields, g.Attaches n) ∧
      (∀ fault, g.check = .error fault ↔ g.FirstFault fault) ∧
      (g.Consistent ↔ g.check = .ok () ∧ ∀ n ∈ g.fields, g.Agrees n) ∧
      ∀ (s : Statement) (o : Options), (s.graph o).Consistent :=
  ⟨g.check_eq_ok_iff, g.check_eq_error_iff, g.consistent_iff, Graph.consistent_drawn⟩

/-- The field of a column of a table. -/
def plainField (table field : String) : Node := .ofField table field field false none

/-- A field that names one table and is attached to another. -/
def strayField : Graph where
  nodes := [.ofTable "a", .ofTable "b", plainField "a" "x"]
  links := [{ Link.ofField "a" "x" with target := tableId "b" }]
  isDiagnostic := false
  aliases := .empty

/-- A field that is attached to another field. -/
def fieldOfField : Graph where
  nodes := [.ofTable "a", plainField "a" "x", plainField "a" "y"]
  links := [.ofField "a" "x", { Link.ofField "a" "y" with target := fieldId "a" "x" }]
  isDiagnostic := false
  aliases := .empty

/-- A graph passes although a field is attached to another table than it names, or to no table. -/
theorem check_graph_stray :
    (strayField.check = .ok () ∧ ¬ strayField.Consistent ∧
        ∀ l ∈ strayField.attaching (plainField "a" "x"), l.target ≠ tableId "a") ∧
      fieldOfField.check = .ok () ∧ ¬ fieldOfField.Consistent ∧
        ∀ l ∈ fieldOfField.attaching (plainField "a" "y"), ∀ n ∈ fieldOfField.tables,
          l.target ≠ n.id := by
  refine ⟨⟨by decide, fun h => ?_, by decide⟩, by decide, fun h => ?_, by decide⟩
  · obtain ⟨table, htable, -, htargets⟩ := (strayField.consistent_iff.1 h).2
      (plainField "a" "x") (by decide)
    obtain rfl := Option.some.inj htable
    exact absurd (htargets { Link.ofField "a" "x" with target := tableId "b" } (by decide))
      (by decide)
  · obtain ⟨table, htable, -, htargets⟩ := (fieldOfField.consistent_iff.1 h).2
      (plainField "a" "y") (by decide)
    obtain rfl := Option.some.inj htable
    exact absurd (htargets { Link.ofField "a" "y" with target := fieldId "a" "x" } (by decide))
      (by decide)

end JoinGraph
