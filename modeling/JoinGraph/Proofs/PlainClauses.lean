import JoinGraph.Proofs.PlainEntry

/-!
# Reading the clauses of drafts

Reading by pattern finds in every layout of a draft what was written: each clause reader cuts its
part out of the whole text by keywords of its own, and all of them cut at the same places.

## Main results

* `Layout.draft_columns`, `Layout.draft_tables`, `Layout.draft_joins`, `Layout.draft_condition?` —
  the clauses.
* `Layout.read_draft` — the whole draft.
-/

namespace JoinGraph.Plain

open Pattern (Matcher)

/-! ## Keywords of clauses -/

section Keywords

variable {k : Keyword}

theorem keyword_aliasTokens {alias? : Option Draft.Alias}
    (h : .keyword k ∈ Draft.aliasTokens alias?) : k = .named := by
  match alias? with
  | none => simp [Draft.aliasTokens] at h
  | some ⟨_, true⟩ => simpa [Draft.aliasTokens] using h
  | some ⟨_, false⟩ => simp [Draft.aliasTokens] at h

/-- The tokens of a list are those of its entries, and commas. -/
theorem mem_separated {t : Token} {entries : List (List Token)} (h : t ∈ separated entries) :
    t = .comma ∨ ∃ entry ∈ entries, t ∈ entry := by
  induction entries with
  | nil => simp [separated] at h
  | cons entry entries ih =>
      cases entries with
      | nil => exact .inr ⟨entry, List.mem_cons_self, h⟩
      | cons next entries =>
          simp only [separated, List.mem_append, List.mem_cons] at h
          rcases h with h | rfl | h
          · exact .inr ⟨entry, List.mem_cons_self, h⟩
          · exact .inl rfl
          · obtain hcomma | ⟨e, he, ht⟩ := ih h
            · exact .inl hcomma
            · exact .inr ⟨e, List.mem_cons_of_mem _ he, ht⟩

theorem keyword_separated {entries : List (List Token)} (h : .keyword k ∈ separated entries) :
    ∃ entry ∈ entries, .keyword k ∈ entry :=
  (mem_separated h).resolve_left nofun

theorem keyword_tableTokens {t : Draft.Table} (h : .keyword k ∈ t.tokens) : k = .named := by
  simp only [Draft.Table.tokens, List.mem_cons, reduceCtorEq, false_or] at h
  exact keyword_aliasTokens h

theorem keyword_entries {d : Draft} (h : .keyword k ∈ separated d.entries) : k = .named := by
  obtain ⟨entry, hentry, hk⟩ := keyword_separated h
  rw [Draft.entries] at hentry
  split at hentry
  · simp_all
  · obtain ⟨c, -, rfl⟩ := List.mem_map.1 hentry
    simp only [Draft.Column.tokens, List.mem_cons, reduceCtorEq, false_or] at hk
    exact keyword_aliasTokens hk

theorem keyword_tables {tables : List Draft.Table}
    (h : .keyword k ∈ separated (tables.map Draft.Table.tokens)) : k = .named := by
  obtain ⟨entry, hentry, hk⟩ := keyword_separated h
  obtain ⟨t, -, rfl⟩ := List.mem_map.1 hentry
  exact keyword_tableTokens hk

theorem keyword_onTokens {on? : Option (ColumnName × ColumnName)} (h : .keyword k ∈ onTokens on?) :
    k = .on := by
  cases on? <;> simp_all [onTokens]

theorem keyword_joins {joins : List Draft.Join} (h : .keyword k ∈ joins.flatMap Draft.Join.tokens) :
    k = .join ∨ k = .on ∨ k = .named := by
  obtain ⟨j, -, hk⟩ := List.mem_flatMap.1 h
  simp only [Draft.Join.tokens, List.mem_cons, Token.keyword.injEq, List.mem_append] at hk
  rcases hk with rfl | hk | hk
  · exact .inl rfl
  · exact .inr (.inr (keyword_tableTokens hk))
  · exact .inr (.inl (keyword_onTokens hk))

theorem keyword_filter {filter? : Option Filter}
    (h : .keyword k ∈ (filter?.map Filter.tokens).getD []) : k = .filter := by
  cases filter? <;> simp_all [Filter.tokens]

/-- The tokens behind `from`. -/
def Draft.behindFrom (d : Draft) : List Token :=
  separated ((d.first :: d.others).map Draft.Table.tokens) ++ Draft.clauseTokens d.joins d.filter?

/-- The tokens up to the end of the FROM list. -/
def Draft.beforeClauses (d : Draft) : List Token :=
  .keyword .select :: (separated d.entries
    ++ .keyword .source :: separated ((d.first :: d.others).map Draft.Table.tokens))

/-- The tokens up to the condition. -/
def Draft.beforeFilter (d : Draft) : List Token :=
  d.beforeClauses ++ d.joins.flatMap Draft.Join.tokens

theorem tokens_eq_behindFrom (d : Draft) :
    d.tokens = .keyword .select :: (separated d.entries ++ .keyword .source :: d.behindFrom) :=
  rfl

theorem tokens_eq_beforeClauses (d : Draft) :
    d.tokens = d.beforeClauses ++ Draft.clauseTokens d.joins d.filter? := by
  simp [Draft.tokens, Draft.beforeClauses]

theorem tokens_eq_beforeFilter (d : Draft) :
    d.tokens = d.beforeFilter ++ (d.filter?.map Filter.tokens).getD [] := by
  rw [tokens_eq_beforeClauses, Draft.clauseTokens, Draft.beforeFilter, List.append_assoc]

theorem keyword_behindFrom {d : Draft} (h : .keyword k ∈ d.behindFrom) : k ≠ .source := by
  simp only [Draft.behindFrom, Draft.clauseTokens, List.mem_append] at h
  rcases h with h | h | h
  · rw [keyword_tables h]; decide
  · rcases keyword_joins h with rfl | rfl | rfl <;> decide
  · rw [keyword_filter h]; decide

theorem keyword_beforeClauses {d : Draft} (h : .keyword k ∈ d.beforeClauses) :
    k = .select ∨ k = .source ∨ k = .named := by
  simp only [Draft.beforeClauses, List.mem_cons, List.mem_append, Token.keyword.injEq] at h
  rcases h with rfl | h | rfl | h
  · exact .inl rfl
  · exact .inr (.inr (keyword_entries h))
  · exact .inr (.inl rfl)
  · exact .inr (.inr (keyword_tables h))

theorem keyword_beforeFilter {d : Draft} (h : .keyword k ∈ d.beforeFilter) : k ≠ .filter := by
  rcases List.mem_append.1 h with h | h
  · rcases keyword_beforeClauses h with rfl | rfl | rfl <;> decide
  · rcases keyword_joins h with rfl | rfl | rfl <;> decide

/-- The word in front of a condition is not found before it. -/
theorem text_beforeFilter {d : Draft} : ∀ k, .keyword k ∈ d.beforeFilter → k.text ∉ ["where"] := by
  intro k hk
  have hne := keyword_beforeFilter hk
  revert hne
  cases k <;> decide

end Keywords

/-! ## Clauses -/

section Clauses

variable {d : Draft} {text : List Char}

theorem separated_cons (entry : List Token) (entries : List (List Token)) :
    ∃ rest, separated (entry :: entries) = entry ++ rest := by
  cases entries with
  | nil => exact ⟨[], (List.append_nil _).symm⟩
  | cons next entries => exact ⟨_, rfl⟩

theorem entries_ne_nil (d : Draft) : d.entries ≠ [] := by
  rw [Draft.entries]
  split
  · exact List.cons_ne_nil _ _
  · simp_all

/-- The SELECT list starts with a word. -/
theorem entries_cons (d : Draft) :
    ∃ t rest, separated d.entries = t :: rest ∧ t.isWord = true := by
  rw [Draft.entries]
  split
  · exact ⟨.star, [], rfl, rfl⟩
  · next h =>
      obtain ⟨c, cs, hcs⟩ := List.exists_cons_of_ne_nil (mt List.isEmpty_iff.2 h)
      obtain ⟨rest, hrest⟩ := separated_cons c.tokens (cs.map Draft.Column.tokens)
      refine ⟨.column c.column, Draft.aliasTokens c.alias? ++ rest, ?_, rfl⟩
      rw [hcs, List.map_cons, hrest]
      rfl

theorem comma_aliasTokens (alias? : Option Draft.Alias) : .comma ∉ Draft.aliasTokens alias? :=
  fun h => absurd (aliasTokens_isName alias? _ h) (by decide)

theorem comma_entries : ∀ entry ∈ d.entries, .comma ∉ entry := by
  intro entry hentry hcomma
  rw [Draft.entries] at hentry
  split at hentry
  · simp_all
  · obtain ⟨c, -, rfl⟩ := List.mem_map.1 hentry
    simp only [Draft.Column.tokens, List.mem_cons, reduceCtorEq, false_or] at hcomma
    exact comma_aliasTokens c.alias? hcomma

theorem comma_tables {tables : List Draft.Table} :
    ∀ entry ∈ tables.map Draft.Table.tokens, .comma ∉ entry := by
  intro entry hentry hcomma
  obtain ⟨t, -, rfl⟩ := List.mem_map.1 hentry
  simp only [Draft.Table.tokens, List.mem_cons, reduceCtorEq, false_or] at hcomma
  exact comma_aliasTokens t.alias? hcomma

/-- A list is read entry by entry. -/
theorem filterMap_of_forall₂ {α β γ : Type} {r : α → β → Prop} {read : β → Option γ} {found : α → γ}
    {l : List α} {parts : List β} (h : List.Forall₂ r l parts)
    (hread : ∀ a part, r a part → read part = some (found a)) :
    parts.filterMap read = l.map found := by
  induction h with
  | nil => rfl
  | cons hpart _ ih => rw [List.filterMap_cons, hread _ _ hpart, ih, List.map_cons]

theorem withoutModifier_layout {list : List Char} (h : Layout (separated d.entries) list) :
    Pattern.withoutModifier list = list := by
  have hnone : ∀ word ∈ ["distinct", "all"],
      (Pattern.afterWord? word.toList (Text.trimFront list)).bind Pattern.afterBlanks? = none := by
    intro word hmem
    have hfree : Pattern.Free ["distinct", "all"] [] (Text.trimFront list) := by
      refine h.trimFront.free (by decide) (fun k hk => ?_) (by simp) (by simp)
      rw [keyword_entries hk]
      decide
    refine hfree.afterWord? hmem ?_
    simp only [List.mem_cons, List.not_mem_nil, or_false] at hmem
    rcases hmem with rfl | rfl <;> decide
  have hfind : (["distinct", "all"].findSome? fun word =>
      (Pattern.afterWord? word.toList (Text.trimFront list)).bind Pattern.afterBlanks?) = none :=
    List.findSome?_eq_none_iff.2 hnone
  rw [Pattern.withoutModifier, hfind]
  rfl

/-- The entries of a SELECT list are read one by one, and none from `*`. -/
theorem Layout.filterMap_column? {list : List Char} (h : Layout (separated d.entries) list) :
    (Pattern.splitTop ',' list).filterMap Pattern.column? = d.columns.map Draft.Column.flat := by
  have hparts := h.splitTop (entries_ne_nil d) comma_entries
  rw [Draft.entries] at hparts
  split at hparts
  · next hempty =>
      rw [List.forall₂_cons_left_iff] at hparts
      obtain ⟨part, rest, hstar, hrest, hparts⟩ := hparts
      cases hrest
      rw [hparts, List.filterMap_cons, hstar.column?_star, List.isEmpty_iff.1 hempty]
      rfl
  · exact filterMap_of_forall₂ (List.forall₂_map_left_iff.1 hparts) fun _ _ hentry => hentry.column?

/-- The columns are found between `select` and `from`, whatever stands behind them. -/
theorem Layout.columns_entries (post : List Token)
    (h : Layout ([] ++ .keyword .select :: (separated d.entries ++ .keyword .source :: post))
      text) :
    Pattern.columns text = d.columns.map Draft.Column.flat := by
  have hfollows : Layout.Follows Pattern.afterBlanks?
      (separated d.entries ++ .keyword .source :: post) := by
    obtain ⟨t, rest, htokens, ht⟩ := entries_cons d
    rw [htokens, List.cons_append]
    exact Layout.follows_afterBlanks ht
  obtain ⟨select, hfound, -, hafter⟩ := h.first?_keyword
    (Pattern.finds_wordAndBlanks (by decide : Pattern.IsKeyword "select")) (by decide) (by simp)
    (by decide) hfollows
  obtain ⟨source, hsource, hlist, -⟩ := hafter.first?_keyword
    (Pattern.finds_wholeWord (by decide : Pattern.IsKeyword "from")) (by decide)
    (fun k hk => by rw [keyword_entries hk]; decide) (by decide) Layout.follows_some
  rw [Pattern.columns, hfound]
  simp only [hsource, withoutModifier_layout hlist, hlist.filterMap_column?]

theorem Layout.draft_columns (h : Layout d.tokens text) :
    Pattern.columns text = d.columns.map Draft.Column.flat :=
  Layout.columns_entries d.behindFrom h

/-- The clauses behind the FROM list start with a keyword that ends it. -/
theorem clauseTokens_cons (joins : List Draft.Join) (filter? : Option Filter) :
    Draft.clauseTokens joins filter? = [] ∨
      ∃ k rest, Draft.clauseTokens joins filter? = .keyword k :: rest ∧
        k.text ∈ Pattern.clauseEnds := by
  cases joins with
  | cons j joins => exact .inr ⟨.join, _, rfl, by decide⟩
  | nil =>
      cases filter? with
      | none => exact .inl rfl
      | some f => exact .inr ⟨.filter, _, rfl, by decide⟩

theorem finds_clauseEnds : (Pattern.anyWord Pattern.clauseEnds).Finds Pattern.clauseEnds some :=
  Pattern.finds_anyWord (by decide)

/-- The tables are read from what stands behind `from`. -/
theorem Layout.filterMap_table? (h : Layout d.behindFrom text) :
    (Pattern.splitTop ',' (Pattern.textBefore
      (Pattern.either (Pattern.anyWord Pattern.clauseEnds) (Pattern.character ')')) text)).filterMap
        Pattern.table? = (d.first :: d.others).map Draft.Table.flat := by
  have hlist : Layout (separated ((d.first :: d.others).map Draft.Table.tokens))
      (Pattern.textBefore
        (Pattern.either (Pattern.anyWord Pattern.clauseEnds) (Pattern.character ')'))
        text) := by
    refine Layout.textBefore h finds_clauseEnds.either_paren (by decide) (fun k hk => ?_)
      (clauseTokens_cons d.joins d.filter?)
    rw [keyword_tables hk]
    decide
  exact filterMap_of_forall₂ (List.forall₂_map_left_iff.1 (hlist.splitTop (by simp) comma_tables))
    fun _ _ hentry => hentry.table?

/-- The tables are found behind the only `from`. -/
theorem Layout.draft_tables (h : Layout d.tokens text) :
    Pattern.tables text = (d.first :: d.others).map Draft.Table.flat := by
  rw [tokens_eq_behindFrom] at h
  have hfrom := Pattern.finds_wholeWord (by decide : Pattern.IsKeyword "from")
  have hsource : Layout ((.keyword .select :: separated d.entries)
      ++ .keyword .source :: d.behindFrom) text := h
  have hselect : ∀ k, Token.keyword k ∈ Token.keyword .select :: separated d.entries →
      k.text ∉ ["from"] := by
    intro k hk
    simp only [List.mem_cons, Token.keyword.injEq] at hk
    rcases hk with rfl | hk
    · decide
    · rw [keyword_entries hk]; decide
  have hbehind : ∀ k, .keyword k ∈ d.behindFrom → k.text ∉ ["from"] := by
    intro k hk
    have hne := keyword_behindFrom hk
    revert hne
    cases k <;> decide
  obtain ⟨before, word, after, -, -, hafter, hends, hfound⟩ :=
    @Layout.occurrencesFrom_keyword _ _ _ _ [] _ _ _ hsource hfrom (by decide) hselect (by decide)
      (.inl rfl)
  rw [hafter.occurrencesFrom_nil hfrom (by decide) hbehind (.inr (endsWord_of_endsToken hends))]
    at hfound
  rw [Pattern.tables, Pattern.occurrences, hfound, ← hafter.filterMap_table?]
  simp

/-! ### Joins -/

/-- The tokens of a join behind its keyword. -/
def Draft.Join.rest (j : Join) : List Token := j.table.tokens ++ onTokens j.on?

theorem keyword_joinRest {j : Draft.Join} {k : Keyword} (h : .keyword k ∈ j.rest) :
    k = .on ∨ k = .named := by
  rcases List.mem_append.1 h with hk | hk
  · exact .inr (keyword_tableTokens hk)
  · exact .inl (keyword_onTokens hk)

/-- A join is read from what stands behind its keyword. -/
theorem Layout.join? {j : Draft.Join} {post : List Token} {found : Pattern.Occurrence}
    (h : Layout (j.rest ++ post) found.after)
    (hpost : post = [] ∨ ∃ k rest, post = .keyword k :: rest ∧ k.text ∈ Pattern.clauseEnds) :
    Pattern.join? found = some j.flat := by
  have hclause : Layout j.rest
      (Pattern.textBefore (Pattern.anyWord Pattern.clauseEnds) found.after) := by
    refine h.textBefore finds_clauseEnds (by decide) (fun k hk => ?_) hpost
    rcases keyword_joinRest hk with rfl | rfl <;> decide
  have hon := Pattern.finds_wholeWord (by decide : Pattern.IsKeyword "on")
  have htable : ∀ k, Token.keyword k ∈ j.table.tokens → k.text ∉ ["on"] := by
    intro k hk
    rw [keyword_tableTokens hk]
    decide
  obtain ⟨table, on?⟩ := j
  rw [Pattern.join?]
  cases on? with
  | none =>
      rw [Draft.Join.rest, onTokens, List.append_nil] at hclause
      simp only [hclause.first?_eq_none hon (by decide) htable, hclause.table?, Option.map_some]
      rfl
  | some sides =>
      obtain ⟨on, hfound, hhead, hcondition⟩ :=
        hclause.first?_keyword hon (by decide) htable (by decide) Layout.follows_some
      simp only [hfound, hhead.table?, hcondition.joinSides, Option.map_some]
      rfl

/-- The joins behind a place in the scan are found one by one. -/
theorem Layout.filterMap_join? {joins : List Draft.Join} {filter? : Option Filter}
    {pre : List Token}
    {passed : List Char} (h : Layout (pre ++ Draft.clauseTokens joins filter?) text)
    (hpre : ∀ k, .keyword k ∈ pre → k.text ∉ ["join"])
    (hfront : Pattern.startsWord passed.head? = true ∨ Pattern.endsWord text = true) :
    (Pattern.occurrencesFrom (Pattern.wordAndBlanks "join") .top passed text).filterMap
      Pattern.join? =
      joins.map Draft.Join.flat := by
  have hjoin := Pattern.finds_wordAndBlanks (by decide : Pattern.IsKeyword "join")
  induction joins generalizing pre passed text with
  | nil =>
      have hnone : ∀ k, .keyword k ∈ pre ++ Draft.clauseTokens [] filter? → k.text ∉ ["join"] := by
        intro k hk
        rcases List.mem_append.1 hk with hk | hk
        · exact hpre k hk
        · rw [keyword_filter hk]; decide
      rw [h.occurrencesFrom_nil hjoin (by decide) hnone hfront]
      rfl
  | cons j joins ih =>
      have hcut :
          Layout (pre ++ .keyword .join :: (j.rest ++ Draft.clauseTokens joins filter?)) text := by
        simpa [Draft.clauseTokens, Draft.Join.tokens, Draft.Join.rest] using h
      obtain ⟨before, word, after, -, -, hafter, hends, hfound⟩ :=
        hcut.occurrencesFrom_keyword hjoin (by decide) hpre (by decide) hfront
      obtain ⟨rest, hrest, hlayout⟩ : ∃ rest, Pattern.afterBlanks? after = some rest ∧
          Layout (j.rest ++ Draft.clauseTokens joins filter?) rest :=
        Layout.follows_afterBlanks rfl after hafter hends
      have hread : Pattern.join? ⟨passed.reverse ++ before, rest⟩ = some j.flat :=
        Layout.join? hlayout (clauseTokens_cons joins filter?)
      rw [hfound, hrest, List.filterMap_append,
        ih hafter (fun k hk => by rcases keyword_joinRest hk with rfl | rfl <;> decide)
          (.inr (endsWord_of_endsToken hends))]
      simp [hread]

/-- The joins are found. -/
theorem Layout.draft_joins (h : Layout d.tokens text) :
    Pattern.joins text = d.joins.map Draft.Join.flat := by
  rw [tokens_eq_beforeClauses] at h
  refine h.filterMap_join? (fun k hk => ?_) (.inl rfl)
  rcases keyword_beforeClauses hk with rfl | rfl | rfl <;> decide

/-! ### WHERE -/

/-- The condition behind `where` is read as the comparison that it is. -/
theorem Layout.condition?_behindWhere {f : Filter}
    (h : Layout [.column f.column, .operator f.operator, .literal f.literal] text) :
    Pattern.comparison? (Pattern.withoutOuterParens (Text.trimChars (Pattern.beforeConjunction
      (Text.trimChars (Pattern.textBefore (Pattern.anyWord Pattern.conditionEnds) text))))) =
        some f.condition := by
  have hall : Layout ([.column f.column, .operator f.operator, .literal f.literal] ++ []) text := h
  have htrim := (hall.textBefore (Pattern.finds_anyWord (by decide : ∀ word ∈ Pattern.conditionEnds,
    Pattern.IsKeyword word)) (by decide) (by simp) (.inl rfl)).trimChars
  rw [htrim.beforeConjunction, htrim.withoutOuterParens (List.cons_ne_nil _ _),
    htrim.trimChars.comparison?]
  rfl

/-- The comparison is found behind `where`. -/
theorem Layout.draft_condition? (h : Layout d.tokens text) :
    Pattern.condition? text = d.filter?.map Filter.condition := by
  have hwhere := Pattern.finds_wholeWord (by decide : Pattern.IsKeyword "where")
  rw [tokens_eq_beforeFilter] at h
  cases hfilter : d.filter? with
  | none =>
      rw [hfilter, Option.map_none, Option.getD_none, List.append_nil] at h
      rw [Pattern.condition?, h.first?_eq_none hwhere (by decide) text_beforeFilter]
      rfl
  | some f =>
      rw [hfilter, Option.map_some, Option.getD_some, Filter.tokens] at h
      obtain ⟨found, hfound, -, hafter⟩ :=
        h.first?_keyword hwhere (by decide) text_beforeFilter (by decide) Layout.follows_some
      rw [Pattern.condition?, hfound]
      simp only [Option.bind_eq_bind, Option.bind_some, Option.map_some]
      exact hafter.condition?_behindWhere

/-- All of a draft is found in its layouts. -/
theorem Layout.read_draft {text : String} (h : Layout d.tokens text.toList) :
    Pattern.read text = d.flat := by
  have hprepare : Layout d.tokens (Pattern.prepare text.toList) := h.prepare (List.cons_ne_nil _ _)
  rw [Pattern.read, Pattern.readChars, hprepare.draft_columns, hprepare.draft_tables,
    hprepare.draft_joins, hprepare.draft_condition?]
  rfl

end Clauses

end JoinGraph.Plain
