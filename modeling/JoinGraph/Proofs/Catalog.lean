import JoinGraph.Drawing.Relation
import JoinGraph.Proofs.Blank
import JoinGraph.Proofs.FirstOccurrence

/-!
# Well-formed catalogs

A catalog is built in two phases: the entries of the statement first, then the qualifiers of its
complete joins.  The first phase binds aliases when all tables of the entries are known; the second
adds tables after that.  `Catalog.WellFormed` is what both phases keep: no alias has the name of a
table, and every alias stands for a table.  So a qualifier is resolved in one step, and to the same
table in every later catalog.

## Main results

* `wellFormed_ofEntries`, `WellFormed.withJoined` — both phases keep the invariant.
* `withJoined_eq` — which tables the second phase adds.
* `tables_ofEntries`, `aliases_ofEntries` — the order of tables and aliases after the first phase.
* `WellFormed.resolve_mem_tables` — a known qualifier resolves to a table.
* `AliasMap.find?_ofList` — the map of the aliases holds their bindings.
-/

namespace JoinGraph

namespace Catalog

/-- Tables and aliases are listed once, no alias is a table, and every alias stands for a table. -/
structure WellFormed (c : Catalog) : Prop where
  tables_nodup : c.tables.Nodup
  aliases_nodup : (c.aliases.map (·.1)).Nodup
  disjoint : ∀ b ∈ c.aliases, b.1 ∉ c.tables
  targets : ∀ b ∈ c.aliases, b.2 ∈ c.tables

/-- A name that is a table or an alias. -/
def Knows (c : Catalog) (name : String) : Prop := c.isTable name = true ∨ c.isAlias name = true

@[simp] theorem isTable_iff (c : Catalog) (name : String) :
    c.isTable name = true ↔ name ∈ c.tables := by
  simp [isTable]

@[simp] theorem isAlias_iff (c : Catalog) (name : String) :
    c.isAlias name = true ↔ ∃ table, (name, table) ∈ c.aliases := by
  simp [isAlias]

/-! ## Steps -/

theorem wellFormed_empty : WellFormed empty :=
  ⟨List.nodup_nil, List.nodup_nil, by simp [empty], by simp [empty]⟩

@[simp] theorem aliases_addTable (c : Catalog) (name : String) :
    (c.addTable name).aliases = c.aliases := by
  unfold addTable
  split <;> rfl

theorem mem_tables_addTable (c : Catalog) (name t : String) :
    t ∈ (c.addTable name).tables ↔ t ∈ c.tables ∨ t = name := by
  unfold addTable
  split
  · next h =>
      have hmem := (isTable_iff c name).1 h
      exact ⟨.inl, fun ht => ht.elim id fun heq => heq ▸ hmem⟩
  · simp

/-- A table may be added under every name that is not an alias. -/
theorem WellFormed.addTable {c : Catalog} (h : c.WellFormed) (name : String)
    (hname : c.isAlias name = false) : (c.addTable name).WellFormed where
  tables_nodup := by
    unfold Catalog.addTable
    split
    · exact h.tables_nodup
    · next hnot =>
        have hnew : name ∉ c.tables := fun hmem => hnot ((isTable_iff c name).2 hmem)
        refine List.nodup_append.2 ⟨h.tables_nodup, by simp, ?_⟩
        rintro t ht u hu rfl
        exact hnew (List.mem_singleton.1 hu ▸ ht)
  aliases_nodup := by simpa using h.aliases_nodup
  disjoint := by
    intro b hb hmem
    rw [aliases_addTable] at hb
    rcases (mem_tables_addTable c name b.1).1 hmem with ht | heq
    · exact h.disjoint b hb ht
    · have halias : c.isAlias name = true := (isAlias_iff c name).2 ⟨b.2, heq ▸ hb⟩
      simp [hname] at halias
  targets := by
    intro b hb
    rw [aliases_addTable] at hb
    exact (mem_tables_addTable c name b.2).2 (.inl (h.targets b hb))

@[simp] theorem tables_bind (c : Catalog) (entry : TableRef) :
    (c.bind entry).tables = c.tables := by
  unfold bind
  split
  · rfl
  · split <;> rfl

/-- What binding does: nothing, or one more alias for the table of the entry. -/
theorem bind_cases (c : Catalog) (entry : TableRef) :
    c.bind entry = c ∨
      ∃ name, name ≠ "" ∧ name ∉ c.tables ∧ c.isAlias name = false ∧
        c.bind entry = { c with aliases := c.aliases ++ [(name, Text.trim entry.name)] } := by
  unfold bind
  split
  · exact .inl rfl
  · next name _ =>
      split
      · exact .inl rfl
      · next hnot =>
          simp only [Bool.or_eq_true, not_or, Bool.not_eq_true] at hnot
          refine .inr ⟨name, ?_, ?_, hnot.2, rfl⟩
          · rintro rfl
            simp at hnot
          · exact fun hmem => by simp [(isTable_iff c name).2 hmem] at hnot

/-- Binding keeps the invariant if the table of the entry is known. -/
theorem WellFormed.bind {c : Catalog} (h : c.WellFormed) (entry : TableRef)
    (hentry : Text.trim entry.name ∈ c.tables) : (c.bind entry).WellFormed := by
  rcases bind_cases c entry with heq | ⟨name, -, htable, halias, heq⟩
  · rw [heq]
    exact h
  · have hnew : name ∉ c.aliases.map (·.1) := by
      intro hmem
      obtain ⟨⟨a, t⟩, hb, rfl⟩ := List.mem_map.1 hmem
      simp [(isAlias_iff c a).2 ⟨t, hb⟩] at halias
    rw [heq]
    exact
      { tables_nodup := h.tables_nodup
        aliases_nodup := by
          rw [List.map_append]
          refine List.nodup_append.2 ⟨h.aliases_nodup, by simp, ?_⟩
          rintro a ha b hb rfl
          simp only [List.map_cons, List.map_nil, List.mem_singleton] at hb
          exact hnew (hb ▸ ha)
        disjoint := by
          intro b hb
          rcases List.mem_append.1 hb with hb | hb
          · exact h.disjoint b hb
          · rw [List.mem_singleton.1 hb]
            exact htable
        targets := by
          intro b hb
          rcases List.mem_append.1 hb with hb | hb
          · exact h.targets b hb
          · rw [List.mem_singleton.1 hb]
            exact hentry }

/-! ## The entries of a statement -/

/-- The tables of the entries, before any alias is bound. -/
def named (entries : List TableRef) : Catalog :=
  entries.foldl (fun c t => c.addTable (Text.trim t.name)) empty

/-- The catalog of the entries of a statement none of which is blank. -/
def ofEntries (entries : List TableRef) : Catalog := entries.foldl bind (named entries)

private theorem named_fold (entries : List TableRef) (c : Catalog) (h : c.WellFormed)
    (hnone : c.aliases = []) :
    let d := entries.foldl (fun c t => c.addTable (Text.trim t.name)) c
    d.WellFormed ∧ d.aliases = [] ∧
      ∀ t, t ∈ d.tables ↔ t ∈ c.tables ∨ ∃ e ∈ entries, Text.trim e.name = t := by
  induction entries generalizing c with
  | nil => exact ⟨h, hnone, by simp⟩
  | cons e rest ih =>
      have hstep := h.addTable (Text.trim e.name) (by simp [isAlias, hnone])
      obtain ⟨hwf, haliases, hmem⟩ := ih _ hstep (by simpa using hnone)
      refine ⟨hwf, haliases, fun t => ?_⟩
      rw [List.foldl_cons, hmem, mem_tables_addTable]
      simp only [List.exists_mem_cons_iff]
      exact ⟨fun ht => by rcases ht with (ht | rfl) | ht <;> simp [*],
        fun ht => by rcases ht with ht | rfl | ht <;> simp [*]⟩

theorem wellFormed_named (entries : List TableRef) : (named entries).WellFormed :=
  (named_fold entries empty wellFormed_empty rfl).1

theorem aliases_named (entries : List TableRef) : (named entries).aliases = [] :=
  (named_fold entries empty wellFormed_empty rfl).2.1

theorem mem_tables_named (entries : List TableRef) (t : String) :
    t ∈ (named entries).tables ↔ ∃ e ∈ entries, Text.trim e.name = t := by
  have hmem := (named_fold entries empty wellFormed_empty rfl).2.2 t
  rw [named, hmem]
  simp [empty]

private theorem bind_fold (entries : List TableRef) (c : Catalog) (h : c.WellFormed)
    (hentries : ∀ e ∈ entries, Text.trim e.name ∈ c.tables) :
    (entries.foldl bind c).WellFormed ∧ (entries.foldl bind c).tables = c.tables := by
  induction entries generalizing c with
  | nil => exact ⟨h, rfl⟩
  | cons e rest ih =>
      obtain ⟨hwf, htables⟩ := ih (c.bind e) (h.bind e (hentries e (by simp)))
        (fun f hf => by simpa using hentries f (by simp [hf]))
      exact ⟨hwf, htables.trans (tables_bind c e)⟩

/-- The first phase: the catalog of the entries is well formed. -/
theorem wellFormed_ofEntries (entries : List TableRef) : (ofEntries entries).WellFormed :=
  (bind_fold entries _ (wellFormed_named entries) fun e he =>
    (mem_tables_named entries _).2 ⟨e, he, rfl⟩).1

theorem mem_tables_ofEntries (entries : List TableRef) (t : String) :
    t ∈ (ofEntries entries).tables ↔ ∃ e ∈ entries, Text.trim e.name = t := by
  rw [ofEntries, (bind_fold entries _ (wellFormed_named entries) fun e he =>
    (mem_tables_named entries _).2 ⟨e, he, rfl⟩).2, mem_tables_named]

/-- Entries without a blank name have a catalog. -/
theorem ofTables_of_named (entries : List TableRef)
    (h : ∀ e ∈ entries, Text.trim e.name ≠ "") : ofTables entries = .ok (ofEntries entries) := by
  have hnone : blankPosition? entries = none := by
    rw [blankPosition?, List.findIdx?_eq_none_iff]
    intro e he
    have := h e he
    rw [Ne, Text.trim_eq_empty_iff] at this
    simpa using this
  rw [ofTables, hnone]
  rfl

/-! ## The qualifiers of joins -/

/-- The qualifiers of complete joins, the left one of a join before the right. -/
def qualifiers (joins : List WrittenJoin) : List String := joins.flatMap fun w => [w.left, w.right]

/-- A name that is neither a table nor an alias. -/
def isUnknown (c : Catalog) (name : String) : Bool := !(c.isTable name || c.isAlias name)

theorem isUnknown_eq_false_iff (c : Catalog) (name : String) :
    c.isUnknown name = false ↔ c.Knows name := by
  rw [isUnknown, Bool.not_eq_false', Bool.or_eq_true]
  rfl

theorem addUnknown_eq (c : Catalog) (name : String) : c.addUnknown name =
    if c.isUnknown name then { c with tables := c.tables ++ [name] } else c := by
  cases htable : c.isTable name <;> cases halias : c.isAlias name <;>
    simp [addUnknown, addTable, isUnknown, htable, halias]

theorem WellFormed.addUnknown {c : Catalog} (h : c.WellFormed) (name : String) :
    (c.addUnknown name).WellFormed := by
  unfold Catalog.addUnknown
  split
  · exact h
  · next hnot =>
      simp only [Bool.or_eq_true, not_or, Bool.not_eq_true] at hnot
      exact h.addTable name hnot.2

private theorem addUnknown_fold (names : List String) (c : Catalog) :
    names.foldl Catalog.addUnknown c =
      { c with tables := c.tables ++ firstsBy id (names.filter c.isUnknown) } := by
  induction names generalizing c with
  | nil => simp
  | cons name names ih =>
      rw [List.foldl_cons, ih, addUnknown_eq]
      by_cases hnew : c.isUnknown name
      · -- The name is known from here on, so it is left out of what follows.
        have hafter : isUnknown { c with tables := c.tables ++ [name] } =
            fun q => decide (id q ≠ id name) && c.isUnknown q := by
          funext q
          by_cases hq : q = name <;> simp [isUnknown, isTable, isAlias, hq]
        rw [if_pos hnew, hafter, List.filter_cons_of_pos hnew, firstsBy_cons,
          ← firstsBy_filter id (fun q => decide (q ≠ id name)), List.filter_filter]
        simp
      · rw [if_neg hnew, List.filter_cons_of_neg hnew]

/-- The second phase: the qualifiers that nothing else explains become tables, each once. -/
theorem withJoined_eq (c : Catalog) (joins : List WrittenJoin) : c.withJoined joins =
    { c with tables := c.tables ++ firstsBy id ((qualifiers joins).filter c.isUnknown) } := by
  rw [← addUnknown_fold]
  simp [withJoined, qualifiers, List.foldl_flatMap]

/-- Tables that only joins name keep the catalog well formed. -/
theorem WellFormed.withJoined {c : Catalog} (h : c.WellFormed) (joins : List WrittenJoin) :
    (c.withJoined joins).WellFormed :=
  List.foldlRecOn (motive := WellFormed) joins _ h fun _ hc w _ =>
    (hc.addUnknown w.left).addUnknown w.right

theorem mem_tables_withJoined_iff (c : Catalog) (joins : List WrittenJoin) (t : String) :
    t ∈ (c.withJoined joins).tables ↔
      t ∈ c.tables ∨ (∃ w ∈ joins, t = w.left ∨ t = w.right) ∧ ¬ c.Knows t := by
  have hfirst : t ∈ firstsBy id ((qualifiers joins).filter c.isUnknown) ↔
      t ∈ (qualifiers joins).filter c.isUnknown :=
    ⟨fun ht => (firstsBy_sublist _ _).subset ht, fun ht => by
      obtain ⟨u, hu, rfl⟩ := exists_mem_firstsBy id ht
      exact hu⟩
  rw [withJoined_eq, List.mem_append, hfirst, List.mem_filter, ← isUnknown_eq_false_iff,
    Bool.not_eq_false]
  simp [qualifiers]

/-- Both qualifiers of every complete join are known afterwards. -/
theorem knows_withJoined (c : Catalog) {joins : List WrittenJoin} {w : WrittenJoin}
    (hw : w ∈ joins) {q : String} (hq : q = w.left ∨ q = w.right) :
    (c.withJoined joins).Knows q := by
  by_cases hknown : c.Knows q
  · rcases hknown with htable | halias
    · exact .inl ((isTable_iff _ _).2 ((mem_tables_withJoined_iff c joins q).2
        (.inl ((isTable_iff _ _).1 htable))))
    · rw [withJoined_eq]
      exact .inr halias
  · exact .inl ((isTable_iff _ _).2 ((mem_tables_withJoined_iff c joins q).2
      (.inr ⟨⟨w, hw, hq⟩, hknown⟩)))

/-! ## The order of tables and aliases -/

private theorem addTable_fold (names : List String) (c : Catalog) (h : c.aliases = []) :
    names.foldl Catalog.addTable c = names.foldl Catalog.addUnknown c := by
  induction names generalizing c with
  | nil => rfl
  | cons name names ih =>
      have hstep : c.addUnknown name = c.addTable name := by
        cases htable : c.isTable name <;> simp [addUnknown, addTable, isAlias, htable, h]
      rw [List.foldl_cons, List.foldl_cons, hstep, ih _ (by simpa using h)]

/-- The tables of the entries are their names, each where it is first met. -/
theorem tables_ofEntries (entries : List TableRef) :
    (ofEntries entries).tables = firstsBy id (entries.map fun e => Text.trim e.name) := by
  have hnamed : named entries = (entries.map fun e => Text.trim e.name).foldl addTable empty := by
    rw [named, List.foldl_map]
  have hbound : (ofEntries entries).tables = (named entries).tables :=
    (bind_fold entries _ (wellFormed_named entries) fun e he =>
      (mem_tables_named entries _).2 ⟨e, he, rfl⟩).2
  have hall : ∀ names : List String, names.filter empty.isUnknown = names := fun names =>
    List.filter_eq_self.2 fun q _ => by simp [isUnknown, isTable, isAlias, empty]
  rw [hbound, hnamed, addTable_fold _ _ rfl, addUnknown_fold, hall]
  rfl

/-- The alias that an entry declares, with its table. -/
def declaration? (e : TableRef) : Option (String × String) :=
  e.alias?.map fun a => (Text.trim a, Text.trim e.name)

/-- The alias may be bound: it is not empty, no table, and not bound. -/
def isFree (c : Catalog) (name : String) : Bool := name != "" && c.isUnknown name

/-- Binding adds the declared alias if it is free. -/
theorem bind_eq {c : Catalog} {entry : TableRef} (hentry : Text.trim entry.name ∈ c.tables) :
    c.bind entry =
      { c with
        aliases := c.aliases ++ (declaration? entry).toList.filter fun b => c.isFree b.1 } := by
  cases halias : entry.alias? with
  | none => simp [bind, declaration?, halias]
  | some a =>
      -- An alias with the name of its own table is no case of its own: that name is a table.
      have hown : Text.trim a = Text.trim entry.name → c.isTable (Text.trim a) = true :=
        fun h => (isTable_iff c _).2 (h ▸ hentry)
      by_cases hfree : c.isFree (Text.trim a) = true
      · obtain ⟨hne, htable, hbound⟩ : Text.trim a ≠ "" ∧ c.isTable (Text.trim a) = false ∧
            c.isAlias (Text.trim a) = false := by
          simpa [isFree, isUnknown] using hfree
        have hown : Text.trim a ≠ Text.trim entry.name := fun h => by simp [hown h] at htable
        simp [bind, declaration?, halias, hfree, hne, htable, hbound, hown, String.isEmpty_iff]
      · have hbound : ¬(¬Text.trim a = "" ∧ c.isTable (Text.trim a) = false ∧
            c.isAlias (Text.trim a) = false) := by
          simpa [isFree, isUnknown] using hfree
        have hkept : c.bind entry = c := by
          simp only [bind, halias, Option.map_some, String.isEmpty_iff, Bool.or_eq_true, beq_iff_eq]
          rw [if_pos]
          grind
        simp [hkept, declaration?, halias, hfree]

private theorem isFree_push (c : Catalog) (b : String × String) (a : String) :
    isFree { c with aliases := c.aliases ++ [b] } a = (decide (a ≠ b.1) && c.isFree a) := by
  by_cases ha : a = b.1
  · simp [isFree, isUnknown, isAlias, ha]
  · have ha' : (b.1 == a) = false := beq_false_of_ne (Ne.symm ha)
    simp [isFree, isUnknown, isTable, isAlias, ha, ha']

private theorem bind_run (entries : List TableRef) (c : Catalog)
    (hentries : ∀ e ∈ entries, Text.trim e.name ∈ c.tables) :
    (entries.foldl bind c).aliases = c.aliases ++
      (firstsBy Prod.fst (entries.filterMap declaration?)).filter fun b => c.isFree b.1 := by
  induction entries generalizing c with
  | nil => simp
  | cons e entries ih =>
      have hstep := bind_eq (hentries e (by simp))
      have hrest : ∀ f ∈ entries, Text.trim f.name ∈ (c.bind e).tables :=
        fun f hf => by simpa using hentries f (by simp [hf])
      rw [List.foldl_cons, ih _ hrest]
      cases hdeclared : declaration? e with
      | none =>
          have hsame : c.bind e = c := by simp [hstep, hdeclared]
          rw [hsame, List.filterMap_cons_none hdeclared]
      | some b =>
          rw [List.filterMap_cons_some hdeclared, firstsBy_cons]
          by_cases hfree : c.isFree b.1 = true
          · have hbind : c.bind e = { c with aliases := c.aliases ++ [b] } := by
              simp [hstep, hdeclared, hfree]
            simp only [hbind, isFree_push]
            rw [List.filter_cons_of_pos (by exact hfree), List.filter_filter, List.append_assoc,
              List.singleton_append]
            simp only [Bool.and_comm]
          · have hsame : c.bind e = c := by simp [hstep, hdeclared, hfree]
            -- Later declarations of the same alias are not free, either.
            have hlater : ∀ b' : String × String,
                (c.isFree b'.1 && decide (b'.1 ≠ b.1)) = c.isFree b'.1 := by
              intro b'
              by_cases hb : b'.1 = b.1 <;> simp [hb, hfree]
            rw [hsame, List.filter_cons_of_neg (by exact hfree), List.filter_filter]
            simp only [hlater]

theorem isFree_named_iff (entries : List TableRef) (a : String) :
    (named entries).isFree a = true ↔ a ≠ "" ∧ ∀ e ∈ entries, Text.trim e.name ≠ a := by
  have hnone : (named entries).isAlias a = false := by simp [isAlias, aliases_named]
  have htable := (isTable_iff (named entries) a).trans (mem_tables_named entries a)
  simp only [isFree, isUnknown, hnone, Bool.or_false, Bool.and_eq_true, bne_iff_ne, ne_eq,
    Bool.not_eq_true', Bool.eq_false_iff, htable]
  grind

/-- The bound aliases are the declared ones that are free, each with the table of the entry that
declares it first. -/
theorem aliases_ofEntries (entries : List TableRef) : (ofEntries entries).aliases =
    (firstsBy Prod.fst (entries.filterMap declaration?)).filter fun b =>
      (named entries).isFree b.1 := by
  rw [ofEntries, bind_run entries _ fun e he => (mem_tables_named entries _).2 ⟨e, he, rfl⟩,
    aliases_named, List.nil_append]

/-! ## Resolving -/

/-- A bound alias resolves to its table. -/
theorem WellFormed.resolve_alias {c : Catalog} (h : c.WellFormed) {name table : String}
    (hb : (name, table) ∈ c.aliases) : c.resolve name = table := by
  have hfind := find?_key_of_nodup h.aliases_nodup hb
  simp [resolve, hfind]

/-- Every other name resolves to itself. -/
theorem resolve_of_not_alias {c : Catalog} {name : String} (h : c.isAlias name = false) :
    c.resolve name = name := by
  have hnone : c.aliases.find? (·.1 == name) = none := by
    rw [List.find?_eq_none]
    intro b hb
    have := List.any_eq_false.1 h b hb
    simpa using this
  simp [resolve, hnone]

theorem WellFormed.isAlias_of_mem_tables {c : Catalog} (h : c.WellFormed) {t : String}
    (ht : t ∈ c.tables) : c.isAlias t = false := by
  rw [Bool.eq_false_iff, Ne, isAlias_iff]
  rintro ⟨u, hb⟩
  exact h.disjoint _ hb ht

/-- A table resolves to itself. -/
theorem WellFormed.resolve_table {c : Catalog} (h : c.WellFormed) {t : String}
    (ht : t ∈ c.tables) : c.resolve t = t :=
  resolve_of_not_alias (h.isAlias_of_mem_tables ht)

/-- A known name resolves to a table. -/
theorem WellFormed.resolve_mem_tables {c : Catalog} (h : c.WellFormed) {q : String}
    (hq : c.Knows q) : c.resolve q ∈ c.tables := by
  rcases hq with hq | hq
  · rw [isTable_iff] at hq
    exact (h.resolve_table hq).symm ▸ hq
  · obtain ⟨t, hb⟩ := (isAlias_iff c q).1 hq
    exact h.resolve_alias hb ▸ h.targets _ hb

/-- A name that resolves to another one is an alias of it. -/
theorem mem_aliases_of_resolve_ne {c : Catalog} {q : String} (hne : q ≠ c.resolve q) :
    (q, c.resolve q) ∈ c.aliases := by
  unfold resolve at hne ⊢
  split at hne
  · next b hfind =>
      obtain ⟨hmem, rfl⟩ := mem_of_find?_key hfind
      exact hmem
  · exact absurd rfl hne

end Catalog

/-! ## The map of the aliases -/

namespace AliasMap

theorem keys_nodup (m : AliasMap) : (m.entries.map (·.1)).Nodup :=
  List.pairwise_map.2 (m.ascending.imp fun h => String.ne_of_lt h)

/-- What is found is what is bound. -/
theorem find?_eq_some_iff (m : AliasMap) (name table : String) :
    m.find? name = some table ↔ (name, table) ∈ m.entries := by
  rw [find?, Option.map_eq_some_iff]
  constructor
  · rintro ⟨b, hfind, rfl⟩
    obtain ⟨hmem, rfl⟩ := mem_of_find?_key hfind
    exact hmem
  · exact fun hmem => ⟨_, find?_key_of_nodup m.keys_nodup hmem, rfl⟩

/-- The map of bindings of different names holds just these. -/
theorem find?_ofList {bindings : List (String × String)} (h : (bindings.map (·.1)).Nodup)
    (name : String) :
    (ofList bindings).find? name = (bindings.find? (·.1 == name)).map (·.2) := by
  suffices hrun : ∀ m : AliasMap, (bindings.foldl (fun m b => m.insert b.1 b.2) m).find? name =
      ((bindings.find? (·.1 == name)).map (·.2)).or (m.find? name) from
    (hrun empty).trans (by simp [find?, empty])
  induction bindings with
  | nil => simp
  | cons b bindings ih =>
      intro m
      obtain ⟨hb, hrest⟩ := List.nodup_cons.1 (List.map_cons ▸ h)
      rw [List.foldl_cons, ih hrest, find?_insert]
      by_cases hname : b.1 = name
      · have hnone : bindings.find? (·.1 == name) = none := by
          rw [List.find?_eq_none]
          intro b' hb' heq
          exact hb (hname ▸ beq_iff_eq.1 heq ▸ List.mem_map_of_mem hb')
        simp [hnone, hname]
      · simp [hname, Ne.symm hname]

theorem find?_ofList_iff {bindings : List (String × String)} (h : (bindings.map (·.1)).Nodup)
    (name table : String) :
    (ofList bindings).find? name = some table ↔ (name, table) ∈ bindings := by
  rw [find?_ofList h, Option.map_eq_some_iff]
  constructor
  · rintro ⟨b, hfind, rfl⟩
    obtain ⟨hmem, rfl⟩ := mem_of_find?_key hfind
    exact hmem
  · exact fun hmem => ⟨_, find?_key_of_nodup h hmem, rfl⟩

end AliasMap

/-- No table is bound as an alias. -/
theorem Catalog.WellFormed.find?_table {c : Catalog} (h : c.WellFormed) {t : String}
    (ht : t ∈ c.tables) : (AliasMap.ofList c.aliases).find? t = none := by
  rw [AliasMap.find?_ofList h.aliases_nodup, Option.map_eq_none_iff, List.find?_eq_none]
  intro b hb heq
  exact h.disjoint b hb ((beq_iff_eq.1 heq).symm ▸ ht)

end JoinGraph
