import JoinGraph.Proofs.PlainClauses

/-!
# FROM clauses with commas behind joins

A FROM clause is a list of items with commas between them; an item is a table and the tables
joined to it.  Reading by pattern looks for the list and for the joins by two scans, and neither
knows where the other one ends: the list goes on to the first `join`, and a join goes on over
commas to the next keyword. So the table of an item behind the first join is in neither, and it
hides the right side of the condition in front of the comma.  All joined tables are found,
whatever the order of commas and joins.

## Main results

* `Layout.clause_tables` — the tables of a clause that are found.
* `Layout.clause_joins` — the joins that are found, and their sides.
* `read_clause` — what is found of a clause, and when that is all of it.
-/

namespace JoinGraph.Plain

/-! ## Clauses -/

/-- A joined table, and the two columns that ON makes equal. -/
structure Clause.Join where
  table : Draft.Table
  left : ColumnName
  right : ColumnName

/-- A table, and the tables joined to it. -/
structure Clause.Item where
  table : Draft.Table
  joins : List Clause.Join

/-- A FROM clause. -/
structure Clause where
  first : Clause.Item
  others : List Clause.Item

namespace Clause

/-- A join as one of a draft. -/
def Join.draft (j : Join) : Draft.Join := ⟨j.table, some (j.left, j.right)⟩

theorem Join.rest_draft (j : Join) : j.draft.rest = j.table.tokens ++
    [.keyword .on, .column j.left, .operator .equal, .column j.right] :=
  rfl

/-- The tokens of the joins of an item. -/
def joinTokens (joins : List Join) : List Token := joins.flatMap fun j => j.draft.tokens

/-- The tokens of an item. -/
def Item.tokens (i : Item) : List Token := i.table.tokens ++ joinTokens i.joins

/-- The items, in order. -/
def items (c : Clause) : List Item := c.first :: c.others

/-- The tokens of `SELECT * FROM` and the clause. -/
def tokens (c : Clause) : List Token :=
  .keyword .select :: .star :: .keyword .source :: separated (c.items.map Item.tokens)

/-! ## What is written and what is found -/

/-- All tables and joins that a clause names. -/
def whole (c : Clause) : Shape.Flat.Select where
  columns := []
  tables := c.items.map fun i => i.table.flat
  joins := c.items.flatMap fun i => i.joins.map fun j => j.draft.flat
  condition := none

/-- The items whose tables are found: those up to the first one with a join. -/
def listed : List Item → List Item
  | [] => []
  | item :: items => if item.joins.isEmpty then item :: listed items else [item]

/-- A join in front of a comma, as it is found. -/
def Join.cutOff (j : Join) : Shape.Flat.Join := { j.draft.flat with right := none }

/-- The joins of an item, as they are found in front of a comma or at the end of the clause. -/
def foundJoins (beforeComma : Bool) : List Join → List Shape.Flat.Join
  | [] => []
  | [j] => [if beforeComma then j.cutOff else j.draft.flat]
  | j :: next :: joins => j.draft.flat :: foundJoins beforeComma (next :: joins)

/-- The joins of all items, as they are found. -/
def foundOf : List Item → List Shape.Flat.Join
  | [] => []
  | item :: items => foundJoins (!items.isEmpty) item.joins ++ foundOf items

/-- What is found of a clause. -/
def found (c : Clause) : Shape.Flat.Select where
  columns := []
  tables := (listed c.items).map fun i => i.table.flat
  joins := foundOf c.items
  condition := none

/-- Whether all commas stand before the first join. -/
def CommasFirst (c : Clause) : Prop := ∀ item ∈ c.items.dropLast, item.joins = []

instance (c : Clause) : Decidable c.CommasFirst :=
  inferInstanceAs (Decidable (∀ item ∈ c.items.dropLast, item.joins = []))

/-! ### What is lost -/

theorem listed_isPrefix (items : List Item) : listed items <+: items := by
  induction items with
  | nil => exact List.prefix_rfl
  | cons item items ih =>
      rw [listed]
      split
      · exact List.cons_prefix_cons.2 ⟨rfl, ih⟩
      · exact List.cons_prefix_cons.2 ⟨rfl, List.nil_prefix⟩

/-- No table is lost exactly if only the last item has joins. -/
theorem listed_eq_self_iff (items : List Item) :
    listed items = items ↔ ∀ item ∈ items.dropLast, item.joins = [] := by
  induction items with
  | nil => simp [listed]
  | cons item items ih =>
      rw [listed]
      cases items with
      | nil => simp [listed]
      | cons next items =>
          by_cases hitem : item.joins = []
          · simp [hitem, ih]
          · simp [hitem]

/-- All joins of an item are found, with their left sides. -/
theorem map_foundJoins (beforeComma : Bool) (joins : List Join) :
    (foundJoins beforeComma joins).map (fun j => { j with right := none }) =
      joins.map Join.cutOff := by
  induction joins with
  | nil => rfl
  | cons j joins ih =>
      cases joins with
      | nil => cases beforeComma <;> rfl
      | cons next joins =>
          rw [foundJoins, List.map_cons, ih]
          rfl

theorem foundJoins_at_end (joins : List Join) :
    foundJoins false joins = joins.map fun j => j.draft.flat := by
  induction joins with
  | nil => rfl
  | cons j joins ih =>
      cases joins with
      | nil => rfl
      | cons next joins => rw [foundJoins, ih, List.map_cons (l := next :: joins)]

theorem map_foundOf (items : List Item) :
    (foundOf items).map (fun j => { j with right := none }) =
      items.flatMap fun i => i.joins.map Join.cutOff := by
  induction items with
  | nil => rfl
  | cons item items ih => rw [foundOf, List.map_append, map_foundJoins, ih, List.flatMap_cons]

/-- No side is lost if only the last item has joins. -/
theorem foundOf_eq_of_commasFirst {items : List Item}
    (h : ∀ item ∈ items.dropLast, item.joins = []) :
    foundOf items = items.flatMap fun i => i.joins.map fun j => j.draft.flat := by
  induction items with
  | nil => rfl
  | cons item items ih =>
      cases items with
      | nil => simp [foundOf, foundJoins_at_end]
      | cons next items =>
          have hitem : item.joins = [] := h item List.mem_cons_self
          have hothers := ih fun i hi => h i (List.mem_cons_of_mem _ hi)
          rw [foundOf, hothers]
          simp [foundJoins, hitem]

theorem found_eq_whole_iff (c : Clause) : c.found = c.whole ↔ c.CommasFirst := by
  constructor
  · intro h
    have htables := congrArg (fun s => s.tables.length) h
    simp only [found, whole, List.length_map] at htables
    exact (listed_eq_self_iff c.items).1 ((listed_isPrefix c.items).eq_of_length htables)
  · intro h
    rw [found, whole, (listed_eq_self_iff c.items).2 h, foundOf_eq_of_commasFirst h]

/-! ## Tokens of clauses -/

/-- The tokens of the items behind an item. -/
def further : List Item → List Token
  | [] => []
  | item :: items => .comma :: separated ((item :: items).map Item.tokens)

/-- The tokens of a clause from its first join on. -/
def behindListed : List Item → List Token
  | [] => []
  | item :: items =>
    if item.joins.isEmpty then behindListed items else joinTokens item.joins ++ further items

theorem separated_items (item : Item) (items : List Item) :
    separated ((item :: items).map Item.tokens) = item.tokens ++ further items := by
  cases items with
  | nil => exact (List.append_nil _).symm
  | cons next items => rfl

theorem listed_cons (item : Item) (items : List Item) :
    ∃ rest, listed (item :: items) = item :: rest := by
  rw [listed]
  split
  · exact ⟨_, rfl⟩
  · exact ⟨_, rfl⟩

/-- A clause is the list of the tables that are found, and the rest from the first join on. -/
theorem separated_listed (items : List Item) :
    separated (items.map Item.tokens) =
      separated ((listed items).map fun i => i.table.tokens) ++ behindListed items := by
  induction items with
  | nil => rfl
  | cons item items ih =>
      rw [separated_items, listed, behindListed, Item.tokens]
      by_cases hitem : item.joins = []
      · cases items with
        | nil => simp [hitem, joinTokens, further, listed, behindListed, separated]
        | cons next items =>
            obtain ⟨rest, hrest⟩ := listed_cons next items
            rw [further, ih, hrest]
            simp [hitem, joinTokens, separated]
      · simp [hitem, separated]

theorem behindListed_cases (items : List Item) :
    behindListed items = [] ∨ ∃ rest, behindListed items = .keyword .join :: rest := by
  induction items with
  | nil => exact .inl rfl
  | cons item items ih =>
      rw [behindListed]
      split
      · exact ih
      · next hitem =>
          obtain ⟨j, joins, hjoins⟩ := List.exists_cons_of_ne_nil (mt List.isEmpty_iff.2 hitem)
          rw [hjoins]
          exact .inr ⟨_, rfl⟩

/-- Where the list of tables ends, a keyword stands that ends it. -/
theorem ends_behindListed (items : List Item) :
    behindListed items = [] ∨
      ∃ k rest, behindListed items = .keyword k :: rest ∧ k.text ∈ Pattern.clauseEnds :=
  (behindListed_cases items).imp id fun ⟨rest, hrest⟩ => ⟨.join, rest, hrest, by decide⟩

theorem keyword_listed {items : List Item} {k : Keyword}
    (h : .keyword k ∈ separated ((listed items).map fun i => i.table.tokens)) : k = .named := by
  obtain ⟨entry, hentry, hk⟩ := keyword_separated h
  obtain ⟨item, -, rfl⟩ := List.mem_map.1 hentry
  exact keyword_tableTokens hk

theorem literal_listed {items : List Item} (l : Literal) :
    .literal l ∉ separated ((listed items).map fun i => i.table.tokens) := by
  intro h
  obtain ⟨entry, hentry, hl⟩ := (mem_separated h).resolve_left (by simp)
  obtain ⟨item, -, rfl⟩ := List.mem_map.1 hentry
  exact absurd (tableTokens_isName item.table _ hl) Bool.false_ne_true

theorem keyword_items {items : List Item} {k : Keyword}
    (h : .keyword k ∈ separated (items.map Item.tokens)) : k = .join ∨ k = .on ∨ k = .named := by
  obtain ⟨entry, hentry, hk⟩ := keyword_separated h
  obtain ⟨item, -, rfl⟩ := List.mem_map.1 hentry
  rcases List.mem_append.1 hk with hk | hk
  · exact .inr (.inr (keyword_tableTokens hk))
  · obtain ⟨j, -, hk⟩ := List.mem_flatMap.1 hk
    have hone : .keyword k ∈ [j.draft].flatMap Draft.Join.tokens := by simpa using hk
    exact keyword_joins hone

end Clause

/-! ## What the readers find -/

section Reading

open Clause

variable {c : Clause} {text : List Char}

/-- The tables of the items up to the first join are found. -/
theorem Layout.clause_tables (h : Layout c.tokens text) :
    Pattern.tables text = (listed c.items).map fun i => i.table.flat := by
  have hfrom := Pattern.finds_wholeWord (by decide : Pattern.IsKeyword "from")
  have hsource : Layout ([.keyword .select, .star]
      ++ .keyword .source :: separated (c.items.map Item.tokens)) text := h
  have hselect : ∀ k, .keyword k ∈ [Token.keyword .select, .star] → k.text ∉ ["from"] := by
    intro k hk
    obtain rfl : k = .select := by simpa using hk
    decide
  have hbehind : ∀ k, .keyword k ∈ separated (c.items.map Item.tokens) → k.text ∉ ["from"] := by
    intro k hk
    rcases keyword_items hk with rfl | rfl | rfl <;> decide
  obtain ⟨before, word, after, -, -, hafter, hends, hfound⟩ :=
    @Layout.occurrencesFrom_keyword _ _ _ _ [] _ _ _ hsource hfrom (by decide) hselect (by decide)
      (.inl rfl)
  rw [hafter.occurrencesFrom_nil hfrom (by decide) hbehind (.inr (endsWord_of_endsToken hends))]
    at hfound
  -- The scan for the end of the list stops at the first join.
  rw [separated_listed] at hafter
  have hlist : Layout (separated ((listed c.items).map fun i => i.table.tokens))
      (Pattern.textBefore
        (Pattern.either (Pattern.anyWord Pattern.clauseEnds) (Pattern.character ')'))
        after) := by
    refine hafter.textBefore finds_clauseEnds.either_paren (by decide) (fun k hk => ?_)
      (ends_behindListed c.items)
    rw [keyword_listed hk]
    decide
  obtain ⟨rest, hrest⟩ := listed_cons c.first c.others
  have hne : (listed c.items).map (fun i => i.table.tokens) ≠ [] := by
    rw [items, hrest]
    exact List.cons_ne_nil _ _
  have hcomma : ∀ entry ∈ (listed c.items).map fun i => i.table.tokens, .comma ∉ entry := by
    intro entry hentry hcomma
    obtain ⟨item, -, rfl⟩ := List.mem_map.1 hentry
    exact absurd (tableTokens_isName item.table _ hcomma) (by decide)
  have hentries := List.forall₂_map_left_iff.1 (hlist.splitTop hne hcomma)
  rw [Pattern.tables, Pattern.occurrences, hfound]
  simpa using filterMap_of_forall₂ hentries fun _ _ hentry => hentry.table?

/-- What stands in front of a comma and behind an equality is no column. -/
theorem Layout.joinSide?_comma {ts : List Token} (h : Layout ts text) (hcomma : .comma ∈ ts) :
    Pattern.joinSide? text = none := by
  obtain ⟨pre, post, rfl⟩ := List.append_of_mem hcomma
  obtain ⟨before, s, after, rfl, -, hs, -, -, -⟩ := h.split
  cases hs
  have hmem : ',' ∈ Text.trimChars (before ++ ([','] ++ after)) :=
    Text.mem_trimChars (by decide) (by simp)
  have hpath : Pattern.isColumnPath (Text.trimChars (before ++ ([','] ++ after))) = false := by
    have hall : (Text.trimChars (before ++ ([','] ++ after))).all Pattern.isPathPart = false :=
      List.all_eq_false.2 ⟨',', hmem, by decide⟩
    rw [Pattern.isColumnPath, hall, Bool.and_false]
  rw [Pattern.joinSide?]
  split
  · rfl
  · rw [Pattern.columnOf?, hpath]
    rfl

/-- A join in front of a comma is found without its right side. -/
theorem Layout.join?_comma {j : Clause.Join} {item : Item} {others : List Item}
    {found : Pattern.Occurrence}
    (h : Layout (j.draft.rest ++ further (item :: others)) found.after) :
    Pattern.join? found = some j.cutOff := by
  rw [further, separated_listed, ← List.cons_append, ← List.append_assoc] at h
  have hon := Pattern.finds_wholeWord (by decide : Pattern.IsKeyword "on")
  have hclause := h.textBefore finds_clauseEnds (by decide) (fun k hk => ?_)
    (ends_behindListed (item :: others))
  · have htable : ∀ k, Token.keyword k ∈ j.table.tokens → k.text ∉ ["on"] := by
      intro k hk
      rw [keyword_tableTokens hk]
      decide
    have hcut : Layout (j.table.tokens ++ .keyword .on :: ([.column j.left] ++ .operator .equal ::
        (.column j.right :: .comma ::
          separated ((listed (item :: others)).map fun i => i.table.tokens))))
        (Pattern.textBefore (Pattern.anyWord Pattern.clauseEnds) found.after) := by
      simpa [Join.rest_draft] using hclause
    obtain ⟨on, hfound, hhead, hcondition⟩ :=
      hcut.first?_keyword hon (by decide) htable (by decide) Layout.follows_some
    obtain ⟨after, hafter, hsides⟩ := hcondition.joinSides_append (by simp [literal_listed])
    rw [Pattern.join?]
    simp only [hfound, hhead.table?, hsides, hafter.joinSide?_comma (by simp), Option.map_some]
    rfl
  · rcases List.mem_append.1 hk with hk | hk
    · rcases keyword_joinRest hk with rfl | rfl <;> decide
    · rw [keyword_listed ((List.mem_cons.1 hk).resolve_left (by simp))]
      decide

/-- The joins of an item are found one by one, and then those of the items behind it. -/
theorem Layout.filterMap_join?_item {joins : List Clause.Join} {others : List Item}
    {pre : List Token}
    {passed : List Char} (h : Layout (pre ++ (joinTokens joins ++ further others)) text)
    (hpre : ∀ k, .keyword k ∈ pre → k.text ∉ ["join"])
    (hfront : Pattern.startsWord passed.head? = true ∨ Pattern.endsWord text = true)
    (hothers : ∀ {pre : List Token} {passed text : List Char}, Layout (pre ++ further others) text →
      (∀ k, .keyword k ∈ pre → k.text ∉ ["join"]) →
      (Pattern.startsWord passed.head? = true ∨ Pattern.endsWord text = true) →
      (Pattern.occurrencesFrom (Pattern.wordAndBlanks "join") .top passed text).filterMap
        Pattern.join? = foundOf others) :
    (Pattern.occurrencesFrom (Pattern.wordAndBlanks "join") .top passed text).filterMap
      Pattern.join? =
      foundJoins (!others.isEmpty) joins ++ foundOf others := by
  have hjoin := Pattern.finds_wordAndBlanks (by decide : Pattern.IsKeyword "join")
  induction joins generalizing pre passed text with
  | nil => exact hothers h hpre hfront
  | cons j joins ih =>
      have hcut : Layout (pre ++ .keyword .join :: (j.draft.rest ++
          (joinTokens joins ++ further others))) text := by
        simpa [joinTokens, Draft.Join.tokens, Draft.Join.rest] using h
      obtain ⟨before, word, after, -, -, hafter, hends, hfound⟩ :=
        hcut.occurrencesFrom_keyword hjoin (by decide) hpre (by decide) hfront
      obtain ⟨rest, hrest, hlayout⟩ : ∃ rest, Pattern.afterBlanks? after = some rest ∧
          Layout (j.draft.rest ++ (joinTokens joins ++ further others)) rest :=
        Layout.follows_afterBlanks rfl after hafter hends
      have hread : Pattern.join? ⟨passed.reverse ++ before, rest⟩ =
          (foundJoins (!others.isEmpty) (j :: joins)).head? := by
        cases joins with
        | cons next joins => exact Layout.join? hlayout (.inr ⟨.join, _, rfl, by decide⟩)
        | nil =>
            cases others with
            | nil => exact Layout.join? hlayout (.inl rfl)
            | cons item others => exact Layout.join?_comma hlayout
      rw [hfound, hrest, List.filterMap_append,
        ih hafter (fun k hk => by rcases keyword_joinRest hk with rfl | rfl <;> decide)
          (.inr (endsWord_of_endsToken hends))]
      cases joins <;> simp [hread, foundJoins]

/-- The joins behind a place in the scan are found. -/
theorem Layout.filterMap_join?_items {others : List Item} {pre : List Token} {passed : List Char}
    (h : Layout (pre ++ further others) text) (hpre : ∀ k, .keyword k ∈ pre → k.text ∉ ["join"])
    (hfront : Pattern.startsWord passed.head? = true ∨ Pattern.endsWord text = true) :
    (Pattern.occurrencesFrom (Pattern.wordAndBlanks "join") .top passed text).filterMap
      Pattern.join? =
      foundOf others := by
  have hjoin := Pattern.finds_wordAndBlanks (by decide : Pattern.IsKeyword "join")
  induction others generalizing pre passed text with
  | nil =>
      rw [further, List.append_nil] at h
      rw [h.occurrencesFrom_nil hjoin (by decide) hpre hfront]
      rfl
  | cons item others ih =>
      have hitem : Layout ((pre ++ .comma :: item.table.tokens) ++
          (joinTokens item.joins ++ further others)) text := by
        rw [further, separated_items] at h
        simpa [Item.tokens] using h
      refine hitem.filterMap_join?_item (fun k hk => ?_) hfront ih
      rcases List.mem_append.1 hk with hk | hk
      · exact hpre k hk
      · rw [keyword_tableTokens ((List.mem_cons.1 hk).resolve_left (by simp))]
        decide

/-- All joins are found, and of the sides all but those in front of a comma. -/
theorem Layout.clause_joins (h : Layout c.tokens text) : Pattern.joins text = foundOf c.items := by
  have hfirst : Layout ((.keyword .select :: .star :: .keyword .source :: c.first.table.tokens) ++
      (joinTokens c.first.joins ++ further c.others)) text := by
    rw [Clause.tokens, items, separated_items] at h
    simpa [Item.tokens] using h
  refine hfirst.filterMap_join?_item (fun k hk => ?_) (.inl rfl) Layout.filterMap_join?_items
  simp only [List.mem_cons, Token.keyword.injEq, reduceCtorEq, false_or] at hk
  rcases hk with rfl | rfl | hk
  · decide
  · decide
  · rw [keyword_tableTokens hk]
    decide

theorem Layout.clause_columns (h : Layout c.tokens text) : Pattern.columns text = [] :=
  Layout.columns_entries (d := ⟨[], c.first.table, [], [], none⟩)
    (separated (c.items.map Item.tokens)) h

theorem Layout.clause_condition? (h : Layout c.tokens text) : Pattern.condition? text = none := by
  have hnone : ∀ k, .keyword k ∈ c.tokens → k.text ∉ ["where"] := by
    intro k hk
    simp only [Clause.tokens, List.mem_cons, Token.keyword.injEq, reduceCtorEq, false_or] at hk
    rcases hk with rfl | rfl | hk
    · decide
    · decide
    · rcases keyword_items hk with rfl | rfl | rfl <;> decide
  rw [Pattern.condition?, h.first?_eq_none
    (Pattern.finds_wholeWord (by decide : Pattern.IsKeyword "where")) (by decide) hnone]
  rfl

/-- What is found of a clause. -/
theorem Layout.read_found {text : String} (h : Layout c.tokens text.toList) :
    Pattern.read text = c.found := by
  have hprepare : Layout c.tokens (Pattern.prepare text.toList) := h.prepare (List.cons_ne_nil _ _)
  rw [Pattern.read, Pattern.readChars, hprepare.clause_columns, hprepare.clause_tables,
    hprepare.clause_joins, hprepare.clause_condition?]
  rfl

end Reading

/-! ## A clause with a comma behind a join -/

/-- The column of a table. -/
def columnOf (table name : Identifier) : ColumnName := ⟨some table, name⟩

/-- Items with joins in front of items with joins and without. -/
def mixedClause : Clause where
  first := ⟨⟨.mk "a", none⟩,
    [⟨⟨.mk "b", none⟩, columnOf (.mk "a") (.mk "key"), columnOf (.mk "b") (.mk "key")⟩,
      ⟨⟨.mk "g", some ⟨.mk "h", true⟩⟩, columnOf (.mk "a") (.mk "key"),
        columnOf (.mk "h") (.mk "key")⟩]⟩
  others := [⟨⟨.mk "d", some ⟨.mk "y", false⟩⟩, []⟩,
    ⟨⟨.mk "e", none⟩, [⟨⟨.mk "f", none⟩, columnOf (.mk "e") (.mk "key"),
      columnOf (.mk "f") (.mk "key")⟩]⟩]

/-- A layout of the clause. -/
def mixedClauseText : String :=
  "select * from a join b on a.key = b.key join g as h on a.key = h.key , d y , " ++
    "e join f on e.key = f.key "

theorem layout_mixedClauseText : Layout mixedClause.tokens mixedClauseText.toList := by
  have htext : mixedClauseText.toList = spaced mixedClause.tokens := by decide +kernel
  rw [htext]
  exact layout_spaced _

end JoinGraph.Plain

namespace JoinGraph

open Plain (Clause Layout)

/--
Of a FROM clause all joined tables are found, once each and with the left sides of their
conditions, and of the other tables those up to the first item with joins.  The right side is
missing in front of a comma. All is found exactly if all commas stand before the first join.
-/
theorem read_clause (c : Clause) {text : String} (h : Layout c.tokens text.toList) :
    Pattern.read text = c.found ∧
      c.found.tables <+: c.whole.tables ∧
      c.found.joins.map (fun j => { j with right := none }) =
        c.whole.joins.map (fun j => { j with right := none }) ∧
      (Pattern.read text = c.whole ↔ c.CommasFirst) := by
  have hread : Pattern.read text = c.found := h.read_found
  refine ⟨hread, (Clause.listed_isPrefix c.items).map _, ?_, ?_⟩
  · rw [Clause.found, Clause.map_foundOf, Clause.whole, List.map_flatMap]
    simp only [List.map_map]
    rfl
  · rw [hread, c.found_eq_whole_iff]

/-- Behind joins of all kinds, two tables and one side are lost. -/
theorem read_clause_mixed :
    Layout Plain.mixedClause.tokens Plain.mixedClauseText.toList ∧
      Pattern.read Plain.mixedClauseText = Plain.mixedClause.found ∧
      ¬Plain.mixedClause.CommasFirst ∧
      Pattern.read Plain.mixedClauseText ≠ Plain.mixedClause.whole := by
  have h := read_clause Plain.mixedClause Plain.layout_mixedClauseText
  have hcommas : ¬Plain.mixedClause.CommasFirst := by decide
  exact ⟨Plain.layout_mixedClauseText, h.1, hcommas, mt h.2.2.2.1 hcommas⟩

/-- A table behind a join is in no list of tables, and the condition in front of it has one side. -/
theorem read_clause_lost :
    Layout Plain.mixedClause.tokens Plain.mixedClauseText.toList ∧
      Pattern.read Plain.mixedClauseText =
        { columns := []
          tables := [⟨"a", none⟩]
          joins := [⟨"b", none, some ⟨some "a", "key"⟩, some ⟨some "b", "key"⟩⟩,
            ⟨"g", some "h", some ⟨some "a", "key"⟩, none⟩,
            ⟨"f", none, some ⟨some "e", "key"⟩, some ⟨some "f", "key"⟩⟩]
          condition := none } ∧
      Plain.mixedClause.whole =
        { columns := []
          tables := [⟨"a", none⟩, ⟨"d", some "y"⟩, ⟨"e", none⟩]
          joins := [⟨"b", none, some ⟨some "a", "key"⟩, some ⟨some "b", "key"⟩⟩,
            ⟨"g", some "h", some ⟨some "a", "key"⟩, some ⟨some "h", "key"⟩⟩,
            ⟨"f", none, some ⟨some "e", "key"⟩, some ⟨some "f", "key"⟩⟩]
          condition := none } :=
  ⟨Plain.layout_mixedClauseText, by decide +kernel, by decide +kernel⟩

end JoinGraph
