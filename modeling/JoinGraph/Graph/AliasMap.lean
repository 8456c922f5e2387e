/-!
# Alias bindings

Which table each alias stands for, in the order of the aliases. The order and the uniqueness of the
aliases are part of the type, so two maps with the same bindings are equal.

## Main results

* `find?_insert`: what a map holds after a binding was added.
-/

namespace JoinGraph

/-- Bindings in strictly ascending order of their aliases. -/
structure AliasMap where
  entries : List (String × String)
  ascending : entries.Pairwise fun a b => a.1 < b.1
  deriving DecidableEq

namespace AliasMap

/-- The map without bindings. -/
def empty : AliasMap := ⟨[], .nil⟩

instance : Inhabited AliasMap := ⟨empty⟩

/-- Whether there are no bindings. -/
def isEmpty (m : AliasMap) : Bool := m.entries.isEmpty

/-- The table an alias stands for. -/
def find? (m : AliasMap) (key : String) : Option String := (m.entries.find? (·.1 == key)).map (·.2)

/-- Puts a binding into its place, replacing one of the same alias. -/
def insertEntry (key table : String) : List (String × String) → List (String × String)
  | [] => [(key, table)]
  | (k, t) :: rest =>
    if key < k then (key, table) :: (k, t) :: rest
    else if k = key then (key, table) :: rest
    else (k, t) :: insertEntry key table rest

theorem mem_insertEntry {key table : String} {list : List (String × String)}
    {e : String × String} (h : e ∈ insertEntry key table list) : e = (key, table) ∨ e ∈ list := by
  induction list with
  | nil => simpa [insertEntry] using h
  | cons head rest ih =>
    obtain ⟨k, t⟩ := head
    simp only [insertEntry] at h
    split at h
    · simpa using h
    · split at h
      · rcases List.mem_cons.1 h with h | h
        · exact .inl h
        · exact .inr (List.mem_cons_of_mem _ h)
      · rcases List.mem_cons.1 h with h | h
        · exact .inr (h ▸ List.mem_cons_self)
        · rcases ih h with h | h
          · exact .inl h
          · exact .inr (List.mem_cons_of_mem _ h)

theorem pairwise_insertEntry {key table : String} {list : List (String × String)}
    (h : list.Pairwise fun a b => a.1 < b.1) :
    (insertEntry key table list).Pairwise fun a b => a.1 < b.1 := by
  induction list with
  | nil => simp [insertEntry]
  | cons head rest ih =>
    obtain ⟨k, t⟩ := head
    obtain ⟨hhead, hrest⟩ := List.pairwise_cons.1 h
    simp only [insertEntry]
    split
    · next hlt =>
      refine List.pairwise_cons.2 ⟨fun e he => ?_, h⟩
      rcases List.mem_cons.1 he with rfl | he
      · exact hlt
      · exact String.lt_trans hlt (hhead e he)
    · next hlt =>
      split
      · next heq => subst heq; exact List.pairwise_cons.2 ⟨hhead, hrest⟩
      · next hne =>
        refine List.pairwise_cons.2 ⟨fun e he => ?_, ih hrest⟩
        rcases mem_insertEntry he with rfl | he
        · exact Decidable.byContradiction fun hk =>
            hne (String.le_antisymm (String.not_lt.1 hlt) (String.not_lt.1 hk))
        · exact hhead e he

/-- Binds an alias, replacing an earlier binding of it. -/
def insert (m : AliasMap) (key table : String) : AliasMap :=
  ⟨insertEntry key table m.entries, pairwise_insertEntry m.ascending⟩

/-- The map of a list of bindings, of which later ones replace earlier ones. -/
def ofList (list : List (String × String)) : AliasMap :=
  list.foldl (fun m e => m.insert e.1 e.2) empty

theorem find?_insert (m : AliasMap) (key table name : String) :
    (m.insert key table).find? name = if name = key then some table else m.find? name := by
  obtain ⟨list, h⟩ := m
  simp only [find?, insert]
  induction list with
  | nil => grind [insertEntry]
  | cons head rest ih =>
    have ih := ih (List.pairwise_cons.1 h).2
    grind [insertEntry]

end AliasMap

end JoinGraph
