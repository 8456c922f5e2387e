import Mathlib.Data.List.Nodup

/-!
# First occurrences

A drawing keeps the first of several things with the same key: the first relation of a pair of
tables, the first mention of a name.  `firstsBy` is that selection, in the order of the list.

## Main results

* `mem_firstsBy_iff` — what is kept has no equal key before it.
* `exists_mem_firstsBy` — every key of the list is kept once.
* `firstsBy_eq_self` — nothing is left out of a list whose keys differ.
* `firstsBy_repeated`, `foldl_repeated` — what repeats something from before it makes no difference.
* `view_foldl` — a run that takes in only what it does not hold takes in first occurrences.
-/

namespace JoinGraph

variable {α β : Type} [DecidableEq β]

/-- The elements of a list that are the first with their key. -/
def firstsBy (key : α → β) (l : List α) : List α := l.eraseDupsBy fun a b => key a == key b

@[simp] theorem firstsBy_nil (key : α → β) : firstsBy key [] = [] := rfl

private theorem firstsBy_cons_filter (key : α → β) (a : α) (l : List α) :
    firstsBy key (a :: l) = a :: firstsBy key (l.filter fun b => key b ≠ key a) := by
  simp [firstsBy, List.eraseDupsBy_cons]

/-- Leaving out keys before the selection is leaving them out of it. -/
theorem firstsBy_filter (key : α → β) (q : β → Bool) (l : List α) :
    firstsBy key (l.filter fun b => q (key b)) = (firstsBy key l).filter fun b => q (key b) := by
  -- The list of `firstsBy_cons_filter` is no part of the given one, so the induction is on its
  -- length.
  induction hn : l.length using Nat.strongRecOn generalizing l with
  | ind n ih =>
      cases l with
      | nil => rfl
      | cons a l =>
          have hlt : (l.filter fun b => key b ≠ key a).length < n := by
            have := List.length_filter_le (fun b => decide (key b ≠ key a)) l
            simp only [List.length_cons] at hn
            omega
          have hih := ih _ hlt _ rfl
          by_cases ha : q (key a)
          · rw [firstsBy_cons_filter, List.filter_cons, if_pos ha, List.filter_cons, if_pos ha,
              firstsBy_cons_filter, ← hih, List.filter_filter, List.filter_filter]
            simp only [Bool.and_comm]
          · rw [firstsBy_cons_filter, List.filter_cons, if_neg ha, List.filter_cons, if_neg ha,
              ← hih, List.filter_filter]
            congr 1
            refine List.filter_congr fun b _ => ?_
            by_cases hb : key b = key a <;> simp [hb, ha]

/-- The first element is kept, and of the others those with another key. -/
theorem firstsBy_cons (key : α → β) (a : α) (l : List α) :
    firstsBy key (a :: l) = a :: (firstsBy key l).filter fun b => key b ≠ key a := by
  rw [firstsBy_cons_filter, firstsBy_filter key (fun k => decide (k ≠ key a))]

theorem firstsBy_sublist (key : α → β) (l : List α) : (firstsBy key l).Sublist l := by
  induction l with
  | nil => exact List.Sublist.refl _
  | cons a l ih =>
      rw [firstsBy_cons]
      exact List.Sublist.cons_cons a (List.filter_sublist.trans ih)

/-- What is kept has no equal key before it. -/
theorem mem_firstsBy_iff (key : α → β) (l : List α) (a : α) :
    a ∈ firstsBy key l ↔
      ∃ before after, l = before ++ a :: after ∧ ∀ b ∈ before, key b ≠ key a := by
  induction l with
  | nil => simp
  | cons x l ih =>
      rw [firstsBy_cons, List.mem_cons, List.mem_filter, ih, decide_eq_true_eq]
      constructor
      · rintro (rfl | ⟨⟨before, after, rfl, hb⟩, hne⟩)
        · exact ⟨[], l, rfl, by simp⟩
        · refine ⟨x :: before, after, rfl, fun b h => ?_⟩
          rcases List.mem_cons.1 h with rfl | h
          · exact hne.symm
          · exact hb b h
      · rintro ⟨before, after, heq, hb⟩
        cases before with
        | nil => exact .inl (List.cons.inj heq).1.symm
        | cons y before =>
            obtain ⟨rfl, rfl⟩ := List.cons.inj heq
            exact .inr ⟨⟨before, after, rfl, fun b h => hb b (by simp [h])⟩,
              (hb x (by simp)).symm⟩

/-- Every key of the list is the key of something kept. -/
theorem exists_mem_firstsBy (key : α → β) {l : List α} {a : α} (h : a ∈ l) :
    ∃ b ∈ firstsBy key l, key b = key a := by
  induction l with
  | nil => simp at h
  | cons x l ih =>
      rw [firstsBy_cons]
      by_cases hx : key x = key a
      · exact ⟨x, by simp, hx⟩
      · rcases List.mem_cons.1 h with rfl | h
        · exact absurd rfl hx
        · obtain ⟨b, hb, hkey⟩ := ih h
          exact ⟨b, by simp [hb, hkey, Ne.symm hx], hkey⟩

theorem nodup_map_firstsBy (key : α → β) (l : List α) : ((firstsBy key l).map key).Nodup := by
  induction l with
  | nil => simp
  | cons a l ih =>
      rw [firstsBy_cons, List.map_cons, List.nodup_cons]
      exact ⟨by simp, ih.sublist (List.filter_sublist.map key)⟩

/-- Of two elements with one key at most one is kept. -/
theorem eq_of_mem_firstsBy {key : α → β} {l : List α} {a b : α} (ha : a ∈ firstsBy key l)
    (hb : b ∈ firstsBy key l) (h : key a = key b) : a = b :=
  List.inj_on_of_nodup_map (nodup_map_firstsBy key l) ha hb h

/-- Nothing is left out of a list whose keys differ. -/
theorem firstsBy_eq_self (key : α → β) {l : List α} (h : (l.map key).Nodup) :
    firstsBy key l = l := by
  induction l with
  | nil => rfl
  | cons a l ih =>
      obtain ⟨ha, hl⟩ := List.nodup_cons.1 (List.map_cons ▸ h)
      rw [firstsBy_cons, ih hl, List.filter_eq_self.2]
      intro b hb
      simp only [decide_eq_true_eq]
      exact fun hba => ha (hba ▸ List.mem_map_of_mem hb)

theorem firstsBy_map {γ : Type} (key : α → β) (f : γ → α) (l : List γ) :
    firstsBy key (l.map f) = (firstsBy (fun c => key (f c)) l).map f := by
  induction l with
  | nil => rfl
  | cons c l ih =>
      rw [List.map_cons, firstsBy_cons, firstsBy_cons, ih, List.map_cons, List.filter_map]
      rfl

/-- Keys that are equal in the same cases select the same. -/
theorem firstsBy_congr {γ : Type} [DecidableEq γ] {key : α → β} {key' : α → γ}
    (h : ∀ a b, key a = key b ↔ key' a = key' b) (l : List α) :
    firstsBy key l = firstsBy key' l := by
  have hsame : (fun a b => key a == key b) = fun a b => key' a == key' b := by
    funext a b
    rw [Bool.eq_iff_iff, beq_iff_eq, beq_iff_eq, h]
  rw [firstsBy, firstsBy, hsame]

/-- A list in front keeps its first elements, and of what comes behind those with other keys. -/
theorem firstsBy_append (key : α → β) (l m : List α) : firstsBy key (l ++ m) =
    firstsBy key l ++ (firstsBy key m).filter fun b => decide (key b ∉ l.map key) := by
  induction l with
  | nil => simp
  | cons a l ih =>
      rw [List.cons_append, firstsBy_cons, firstsBy_cons, ih, List.filter_append,
        List.filter_filter, List.cons_append]
      congr 2
      refine List.filter_congr fun b _ => ?_
      simp only [List.map_cons, List.mem_cons, not_or, Bool.decide_and, ne_eq]

/-- Elements that repeat keys from before them make no difference. -/
theorem firstsBy_repeated (key : α → β) {front more : List α}
    (h : ∀ a ∈ more, ∃ b ∈ front, key b = key a) (back : List α) :
    firstsBy key (front ++ (more ++ back)) = firstsBy key (front ++ back) := by
  have hnone : (more.filter fun a => decide (key a ∉ front.map key)) = [] := by
    refine List.filter_eq_nil_iff.2 fun a ha hnew => ?_
    obtain ⟨b, hb, hkey⟩ := h a ha
    exact of_decide_eq_true hnew (hkey ▸ List.mem_map_of_mem hb)
  have hfilter := firstsBy_filter key fun k => decide (k ∉ front.map key)
  rw [firstsBy_append key front, firstsBy_append key front, ← hfilter, ← hfilter,
    List.filter_append, hnone, List.nil_append]

/-! ## Entries by keys -/

section Entries

variable {γ : Type} {entries : List (β × γ)} {e : β × γ}

/-- What is found under a key is an entry with this key. -/
theorem mem_of_find?_key {k : β} (h : entries.find? (·.1 == k) = some e) :
    e ∈ entries ∧ e.1 = k :=
  ⟨List.mem_of_find?_eq_some h, by simpa using List.find?_some h⟩

/-- Under the key of an entry something is found. -/
theorem exists_find?_key (h : e ∈ entries) : ∃ e', entries.find? (·.1 == e.1) = some e' :=
  Option.isSome_iff_exists.1 (List.find?_isSome.2 ⟨e, h, by simp⟩)

/-- It is the entry itself if keys differ. -/
theorem find?_key_of_nodup (hkeys : (entries.map (·.1)).Nodup) (h : e ∈ entries) :
    entries.find? (·.1 == e.1) = some e := by
  obtain ⟨e', hfind⟩ := exists_find?_key h
  obtain ⟨hmem, hkey⟩ := mem_of_find?_key hfind
  rw [hfind, List.inj_on_of_nodup_map hkeys hmem h hkey]

end Entries

/-! ## Runs -/

/-- A run does not change by items from before them, if what it holds it keeps, and passes over. -/
theorem foldl_repeated {σ : Type} {step : σ → α → σ} {holds : σ → α → Prop}
    (htaken : ∀ s a, holds (step s a) a) (hkept : ∀ s a b, holds s a → holds (step s b) a)
    (hheld : ∀ s a, holds s a → step s a = s) {front more : List α} (h : more ⊆ front)
    (back : List α) (s : σ) :
    (front ++ (more ++ back)).foldl step s = (front ++ back).foldl step s := by
  have hfront : ∀ a ∈ front, holds (front.foldl step s) a := by
    clear h
    induction front generalizing s with
    | nil => simp
    | cons b front ih =>
        intro a ha
        rcases List.mem_cons.1 ha with rfl | ha
        · exact List.foldlRecOn (motive := (holds · a)) front step (htaken s a)
            fun d hd b _ => hkept d a b hd
        · exact ih (step s b) a ha
  have hmore : more.foldl step (front.foldl step s) = front.foldl step s :=
    List.foldlRecOn (motive := (· = front.foldl step s)) more step rfl fun d hd a ha => by
      rw [hd, hheld _ _ (hfront a (h ha))]
  rw [List.foldl_append, List.foldl_append, hmore, ← List.foldl_append]

section Runs

variable {σ γ : Type} (key : α → β) (step : σ → α → σ) (holds : σ → β → Bool) (view : σ → List γ)
  (item : α → γ)

/-- A run that passes over what it holds, and shows what it takes in at the end, shows the first
item of each key that it did not hold. -/
theorem view_foldl (hheld : ∀ s a, holds s (key a) = true → step s a = s)
    (hshown : ∀ s a, holds s (key a) = false → view (step s a) = view s ++ [item a])
    (hnew : ∀ s a k, holds s (key a) = false →
      holds (step s a) k = (decide (k = key a) || holds s k))
    (l : List α) (s : σ) : view (l.foldl step s) =
      view s ++ (firstsBy key (l.filter fun a => !holds s (key a))).map item := by
  induction l generalizing s with
  | nil => simp
  | cons a l ih =>
      rw [List.foldl_cons, ih]
      cases ha : holds s (key a) with
      | true => rw [hheld s a ha, List.filter_cons_of_neg (by simp [ha])]
      | false =>
          -- Held from here on are the key of this item and the keys held before.
          have hrest : (l.filter fun b => !holds (step s a) (key b)) =
              (l.filter fun b => !holds s (key b)).filter fun b => decide (key b ≠ key a) := by
            rw [List.filter_filter]
            refine List.filter_congr fun b _ => ?_
            rw [hnew s a (key b) ha, Bool.not_or, decide_not]
          rw [hshown s a ha, hrest, List.filter_cons_of_pos (by simp [ha]), firstsBy_cons,
            firstsBy_filter key (fun k => decide (k ≠ key a)), List.map_cons, List.append_assoc,
            List.singleton_append]

end Runs

end JoinGraph
