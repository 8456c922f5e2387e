import JoinGraph.Proofs.PlainName
import JoinGraph.Proofs.Conjunction
import JoinGraph.Proofs.PlainDraft

/-!
# Reading the parts of a plain statement

Each reader of a clause, on a layout of what it reads: list entries, join conditions and
comparisons.

## Main results

* `Layout.table?`, `Layout.column?` — entries of the FROM list and the SELECT list.
* `Layout.joinSides` — the two columns of an ON condition.
* `Layout.comparison?` — the comparison of a WHERE condition.
-/

namespace JoinGraph.Plain

open Text (isBlank asciiLower foldLower)

/-! ## Entries of the FROM list -/

theorem equalFold_named {s : List Char} (h : Spelled (.keyword .named) s) :
    Text.equalFold (String.ofList s) "as" = true := by
  cases h with
  | keyword h =>
      rw [Text.equalFold, String.toList_ofList, h]
      decide

/-- A name is not taken for the `as` in front of an alias. -/
theorem equalFold_name {a : Identifier} {s : List Char} (h : Wrapped a s) :
    Text.equalFold (String.ofList s) "as" = false := by
  have hnot : ¬ Text.equalFold "as" (String.ofList s) = true :=
    List.any_eq_false.1 h.not_clauseKeyword "as" (by decide)
  refine Bool.eq_false_iff.2 fun hequal => hnot ?_
  rw [Text.equalFold, beq_iff_eq] at hequal ⊢
  exact hequal.symm

theorem aliasAmong?_words {alias? : Option Draft.Alias} {words : List (List Char)}
    (h : List.Forall₂ Spelled (Draft.aliasTokens alias?) words) :
    Pattern.aliasAmong? words = alias?.map (·.name.text) := by
  have hplain : ∀ a : Identifier, Pattern.isPlainName a.text.toList = true := fun a =>
    (@Wrapped.bare a).isPlainName
  match alias? with
  | none => cases h; rfl
  | some ⟨a, true⟩ =>
      rcases h with _ | ⟨hnamed, _ | ⟨hname, _ | _⟩⟩
      cases hname with
      | name hname =>
          simp only [Pattern.aliasAmong?, equalFold_named hnamed, if_true, List.head?_cons,
            Option.map_some, Option.bind_some, hname.bareChars, hplain, Identifier.chars,
            String.ofList_toList]
  | some ⟨a, false⟩ =>
      rcases h with _ | ⟨hname, _ | _⟩
      cases hname with
      | name hname =>
          simp only [Pattern.aliasAmong?, equalFold_name hname, Bool.false_eq_true, if_false,
            Option.map_some, Option.bind_some, hname.bareChars, hplain, if_true, Identifier.chars,
            String.ofList_toList]

theorem aliasTokens_isName : ∀ alias?, ∀ t ∈ Draft.aliasTokens alias?, t.isName = true
  | none => by simp [Draft.aliasTokens]
  | some ⟨_, true⟩ => by simp [Draft.aliasTokens, Token.isName]
  | some ⟨_, false⟩ => by simp [Draft.aliasTokens, Token.isName]

theorem tableTokens_isName (t : Draft.Table) : ∀ token ∈ t.tokens, token.isName = true := by
  simpa [Draft.Table.tokens, Token.isName] using aliasTokens_isName t.alias?

theorem Layout.head_edge {t : Token} {ts : List Token} {text : List Char}
    (h : Layout (t :: ts) text) : ∃ c rest, Text.trimChars text = c :: rest ∧ isEdge c = true := by
  obtain ⟨s, rest, htrim, hs, -, -⟩ := h.trimFront_cons
  have hback := hs.trimBack_append [] rest
  obtain ⟨c, s, rfl, hc⟩ := hs.head_edge
  exact ⟨c, s ++ Text.trimBack rest, by rw [Text.trimChars, htrim]; exact hback, hc⟩

/-- A table and its alias are read from their layout. -/
protected theorem Layout.table? {t : Draft.Table} {entry : List Char} (h : Layout t.tokens entry) :
    Pattern.table? entry = some t.flat := by
  have hnames : ∀ token ∈ t.tokens, token.isName = true := tableTokens_isName t
  have hhead : (Text.trimChars entry).head? ≠ some '(' := by
    obtain ⟨c, rest, htrim, hc⟩ := h.head_edge
    simpa [htrim] using (ne_of_isEdge hc).1
  have hwords := h.trimChars.words hnames
  rw [Draft.Table.tokens, List.forall₂_cons_left_iff] at hwords
  obtain ⟨word, rest, hname, halias, hwords⟩ := hwords
  have hlast := hname.lastSegment
  simp [Pattern.table?, hhead, hwords, hname.isTablePath, hlast, t.name.text_ne_empty,
    aliasAmong?_words halias, Identifier.chars, Draft.Table.flat]

/-! ## Entries of the SELECT list -/

theorem aliasAfterAs?_eq (s : List Char) :
    Pattern.aliasAfterAs? s = (Pattern.afterBlanks? s).bind fun named =>
      (Pattern.afterWord? "as".toList named).bind fun rest =>
        (Pattern.afterBlanks? rest).bind fun name =>
          if Pattern.isAliasText name then some name else none :=
  rfl

theorem splitAs?_nil : Pattern.splitAs? [] = none := rfl

theorem splitAs?_cons (c : Char) (s : List Char) :
    Pattern.splitAs? (c :: s) =
      match Pattern.aliasAfterAs? (c :: s) with
      | some name => some ([], name)
      | none => (Pattern.splitAs? s).map fun parts => (c :: parts.1, parts.2) := by
  with_unfolding_all rfl

theorem splitAs?_append {s : List Char} (hs : ∀ c ∈ s, isBlank c = false) (rest : List Char) :
    Pattern.splitAs? (s ++ rest) = (Pattern.splitAs? rest).map fun p => (s ++ p.1, p.2) := by
  induction s with
  | nil => simp
  | cons c s ih =>
      have hc : isBlank c = false := hs c List.mem_cons_self
      have hnone : Pattern.aliasAfterAs? (c :: (s ++ rest)) = none := by
        rw [aliasAfterAs?_eq, Pattern.afterBlanks?, if_neg (by simp [hc])]
        rfl
      rw [List.cons_append, splitAs?_cons, hnone, ih fun d hd => hs d (List.mem_cons_of_mem _ hd)]
      cases Pattern.splitAs? rest <;> rfl

theorem afterWord?_keyword {k : Keyword} {s rest : List Char} (h : Spelled (.keyword k) s)
    (hends : endsToken rest = true) : Pattern.afterWord? k.text.toList (s ++ rest) = some rest := by
  have hrun :=
    Pattern.afterWord?_run k.isKeyword.letters h.keyword_word (endsWord_of_endsToken hends)
  rw [if_pos h.keyword_fold] at hrun
  exact (Option.filter_eq_some_iff.1 hrun).1

theorem isAliasText_name {a : Identifier} {name : List Char} (h : Spelled (.name a) name) :
    Pattern.isAliasText name = true := by
  have hany : name.any isBlank = false := by
    simpa using h.no_blank rfl
  simp [Pattern.isAliasText, h.ne_nil, hany]

/-- Behind blanks, `as` and blanks again an alias is found. -/
theorem aliasAfterAs?_named {a : Identifier} {b b' : Char} {gap gap' named name : List Char}
    (hgap : ∀ c ∈ b :: gap, isBlank c = true) (hnamed : Spelled (.keyword .named) named)
    (hgap' : ∀ c ∈ b' :: gap', isBlank c = true) (hname : Spelled (.name a) name) :
    Pattern.aliasAfterAs? (b :: gap ++ (named ++ (b' :: gap' ++ name))) = some name := by
  have hends : endsToken (b' :: gap' ++ name) = true := by
    simp [endsToken, hgap' b' List.mem_cons_self]
  have hword : Pattern.afterWord? "as".toList (named ++ (b' :: gap' ++ name)) =
      some (b' :: gap' ++ name) := afterWord?_keyword hnamed hends
  have hblanks : Pattern.afterBlanks? (b' :: gap' ++ name) = some name := by
    simpa using hname.afterBlanks?_append hgap' []
  rw [aliasAfterAs?_eq, hnamed.afterBlanks?_append hgap, Option.bind_some, hword, Option.bind_some,
    hblanks, Option.bind_some, if_pos (isAliasText_name hname)]

/-- An alias stands behind the first `as` between blanks. -/
theorem Layout.splitAs? {c : ColumnName} {a : Identifier} {item : List Char}
    (h : Layout [.column c, .keyword .named, .name a] item) :
    ∃ expr name, Spelled (.column c) expr ∧ Spelled (.name a) name ∧
      Pattern.splitAs? (Text.trimChars item) = some (expr, name) := by
  obtain ⟨expr, rest, htrim, hexpr, hends, hrest⟩ := h.trimFront_cons
  obtain ⟨b, gap, named, rest, rfl, hgap, hnamed, hends, hrest⟩ := hrest.blank_cons rfl (hends rfl)
  obtain ⟨b', gap', name, rest, rfl, hgap', hname, -, hrest⟩ := hrest.blank_cons rfl hends
  have htext : Text.trimChars item =
      expr ++ (b :: gap ++ (named ++ (b' :: gap' ++ name))) := by
    have hback := hname.trimBack_append (expr ++ (b :: gap ++ (named ++ (b' :: gap')))) rest
    rw [Text.trimBack_blanks hrest.blank_nil] at hback
    rw [Text.trimChars, htrim]
    simpa using hback
  refine ⟨expr, name, hexpr, hname, ?_⟩
  rw [htext, splitAs?_append (hexpr.no_blank rfl), List.cons_append, splitAs?_cons,
    ← List.cons_append, aliasAfterAs?_named hgap hnamed hgap' hname]
  simp

/-- Behind blanks a name alone is no `as` with an alias. -/
theorem aliasAfterAs?_unmarked {a : Identifier} {b : Char} {gap name : List Char}
    (hgap : ∀ c ∈ b :: gap, isBlank c = true) (hname : Spelled (.name a) name) :
    Pattern.aliasAfterAs? (b :: gap ++ name) = none := by
  have hfree : Pattern.Free ["as"] [] name :=
    hname.free (by decide) (by simp) (by simp) (by simp)
  have hword : (Pattern.afterWord? "as".toList name).bind Pattern.afterBlanks? = none :=
    hfree.afterWord? (List.mem_singleton_self _) (by decide)
  have hblanks : Pattern.afterBlanks? (b :: gap ++ name) = some name := by
    simpa using hname.afterBlanks?_append hgap []
  rw [aliasAfterAs?_eq, hblanks, Option.bind_some, ← Option.bind_assoc, hword, Option.bind_none]

theorem splitAs?_unmarked {a : Identifier} {gap name : List Char}
    (hgap : ∀ c ∈ gap, isBlank c = true) (hname : Spelled (.name a) name) :
    Pattern.splitAs? (gap ++ name) = none := by
  induction gap with
  | nil => simpa [splitAs?_nil] using splitAs?_append (hname.no_blank rfl) []
  | cons b gap ih =>
      rw [List.cons_append, splitAs?_cons, ← List.cons_append, aliasAfterAs?_unmarked hgap hname,
        ih fun c hc => hgap c (List.mem_cons_of_mem _ hc)]
      rfl

/-- A column with an alias behind no `as` is not cut. -/
theorem Layout.splitAs?_unmarked {c : ColumnName} {a : Identifier} {item : List Char}
    (h : Layout [.column c, .name a] item) : Pattern.splitAs? (Text.trimChars item) = none := by
  obtain ⟨expr, rest, htrim, hexpr, hends, hrest⟩ := h.trimFront_cons
  obtain ⟨b, gap, name, rest, rfl, hgap, hname, -, hrest⟩ := hrest.blank_cons rfl (hends rfl)
  have htext : Text.trimChars item = expr ++ (b :: gap ++ name) := by
    have hback := hname.trimBack_append (expr ++ (b :: gap)) rest
    rw [Text.trimBack_blanks hrest.blank_nil] at hback
    rw [Text.trimChars, htrim]
    simpa using hback
  rw [htext, splitAs?_append (hexpr.no_blank rfl), Plain.splitAs?_unmarked hgap hname]
  rfl

theorem splitAlias_of_no_blank {s : List Char} (hne : s ≠ []) (hs : ∀ c ∈ s, isBlank c = false) :
    Pattern.splitAlias s = (s, none) := by
  have hsplit : Pattern.splitAs? s = none := by simpa [splitAs?_nil] using splitAs?_append hs []
  have hwords : Text.words s = [s] := by
    simpa [Text.words, Text.wordsFrom] using @Text.words_append s [] hne hs rfl
  rw [Pattern.splitAlias, hsplit, hwords]

theorem Layout.splitAlias {c : Draft.Column} {entry : List Char} (h : Layout c.tokens entry) :
    ∃ expr, Spelled (.column c.column) expr ∧
      Pattern.splitAlias (Text.trimChars entry) = (expr, c.alias?.map (·.name.chars)) := by
  match c with
  | ⟨column, none⟩ =>
      have hspelled := h.spelled
      exact ⟨_, hspelled, splitAlias_of_no_blank hspelled.ne_nil (hspelled.no_blank rfl)⟩
  | ⟨column, some ⟨a, true⟩⟩ =>
      obtain ⟨expr, name, hexpr, hname, hsplit⟩ := h.splitAs?
      cases hname with
      | name hname =>
          refine ⟨expr, hexpr, ?_⟩
          rw [Pattern.splitAlias, hsplit]
          simp only [Text.trimChars_of_no_blank (hexpr.no_blank rfl), hname.bareChars,
            Option.map_some]
  | ⟨column, some ⟨a, false⟩⟩ =>
      have hwords :=
        h.trimChars.words (by simp [Draft.Column.tokens, Draft.aliasTokens, Token.isName])
      obtain ⟨expr, name, hexpr, hname, hwords⟩ : ∃ expr name, Spelled (.column column) expr ∧
          Spelled (.name a) name ∧ Text.words (Text.trimChars entry) = [expr, name] := by
        rw [Draft.Column.tokens, List.forall₂_cons_left_iff] at hwords
        obtain ⟨expr, rest, hexpr, hrest, hwords⟩ := hwords
        rcases hrest with _ | ⟨hname, _ | _⟩
        exact ⟨expr, _, hexpr, hname, hwords⟩
      cases hname with
      | name hname =>
          refine ⟨expr, hexpr, ?_⟩
          rw [Pattern.splitAlias, h.splitAs?_unmarked, hwords]
          simp only [hname.isPlainName, if_true, hname.bareChars, Option.map_some]

theorem Identifier.text_ne_star (n : Identifier) : n.text ≠ "*" := by
  intro h
  have hpart : isIdentifierPart '*' = true := n.part (by rw [chars, h]; decide)
  revert hpart
  decide

/-- A column and its alias are read from their layout. -/
protected theorem Layout.column? {c : Draft.Column} {entry : List Char}
    (h : Layout c.tokens entry) :
    Pattern.column? entry = some c.flat := by
  obtain ⟨expr, hexpr, hsplit⟩ := h.splitAlias
  have hstar : c.column.ref.column ≠ "*" := c.column.name.text_ne_star
  have halias : ((c.alias?.map (·.name.chars)).filter fun n => !n.isEmpty).map String.ofList =
      c.alias?.map (·.name.text) := by
    cases c.alias? with
    | none => rfl
    | some a => simp [Option.filter, a.name.text_ne_empty, Identifier.chars]
  rw [Pattern.column?, hsplit]
  simp only [Option.bind_eq_bind, hexpr.columnOf?, Option.bind_some, if_neg hstar, halias]
  rfl

/-- Of `*` no column is read. -/
theorem Layout.column?_star {entry : List Char} (h : Layout [.star] entry) :
    Pattern.column? entry = none := by
  have hspelled := h.spelled
  generalize hs : Text.trimChars entry = s at hspelled
  cases hspelled
  have star : isBlank '*' = false := by decide
  have hcolumn : Pattern.columnOf? ['*'] = some ⟨none, "*"⟩ := by decide +kernel
  rw [Pattern.column?, hs, splitAlias_of_no_blank (by simp) (by simp [star])]
  simp only [Option.bind_eq_bind, hcolumn, Option.bind_some, if_true]

/-! ## Conditions -/

section Conditions

variable {ts : List Token} {text s : List Char}

protected theorem Layout.beforeConjunction (h : Layout ts text) :
    Pattern.beforeConjunction text = text :=
  beforeConjunction_eq_self_iff.2 fun _ hmem => h.not_standsBetweenBlanks hmem

/-- A property of blanks and of the characters of tokens holds of a layout. -/
theorem Layout.forall_mem {p : Char → Prop} (h : Layout ts text)
    (hblank : ∀ c, isBlank c = true → p c)
    (htoken : ∀ t ∈ ts, ∀ s, Spelled t s → ∀ c ∈ s, p c) : ∀ c ∈ text, p c := by
  induction h with
  | nil hgap => exact fun c hc => hblank c (hgap c hc)
  | @cons t ts gap s rest hgap hs _ _ ih =>
      intro c hc
      rcases List.mem_append.1 hc with hc | hc
      · exact hblank c (hgap c hc)
      rcases List.mem_append.1 hc with hc | hc
      · exact htoken t List.mem_cons_self s hs c hc
      · exact ih (fun t ht => htoken t (List.mem_cons_of_mem _ ht)) c hc

theorem isComparisonPart_of_isBlank {c : Char} (h : isBlank c = true) :
    Pattern.isComparisonPart c = false := by
  simp only [Pattern.isComparisonPart, Bool.or_eq_false_iff, beq_eq_false_iff_ne]
  refine ⟨⟨⟨?_, ?_⟩, ?_⟩, ?_⟩ <;> (rintro rfl; revert h; decide)

/-- A column has no operator in it. -/
theorem Layout.no_comparison {c : ColumnName} (h : Layout [.column c] text) :
    ∀ c ∈ text, Pattern.isComparisonPart c = false := by
  refine h.forall_mem (fun _ => isComparisonPart_of_isBlank) ?_
  simp only [List.mem_singleton, forall_eq]
  exact fun s hs c hc => (plainPart_of_isTokenPart (hs.parts rfl c hc)).comparison

/-! ### ON -/

theorem Layout.joinSide? {c : ColumnName} (h : Layout [.column c] text) :
    Pattern.joinSide? text = some c.ref := by
  have hspelled := h.spelled
  have hany : ((Text.trimChars text).any fun c => c == '<' || c == '>' || c == '!') = false := by
    refine List.any_eq_false.2 fun c hc => ?_
    have hcomparison := h.trimChars.no_comparison c hc
    simp only [Pattern.isComparisonPart, Bool.or_eq_false_iff] at hcomparison
    simp [hcomparison]
  rw [Pattern.joinSide?, if_neg (by simp [hany]), hspelled.columnOf?]

/-- The first column of an ON condition is read from its layout, and the second one from what stands
behind the equality, up to the end. -/
theorem Layout.joinSides_append {left : ColumnName} {post : List Token}
    (h : Layout ([.column left] ++ .operator .equal :: post) text)
    (hpost : ∀ l, .literal l ∉ post) :
    ∃ after, Layout post after ∧
      Pattern.joinSides text = (some left.ref, Pattern.joinSide? after) := by
  have hparens : text.filter (fun c => !(c == '(' || c == ')')) = text := by
    refine List.filter_eq_self.2 (h.forall_mem (fun c hc => ?_) fun t ht s hs c hc => ?_)
    · have hedge : c ≠ '(' ∧ c ≠ ')' := by constructor <;> (rintro rfl; revert hc; decide)
      simp [hedge]
    · have hliteral : ∀ l, t ≠ .literal l := by
        rintro l rfl
        simp [hpost] at ht
      simp [ne_of_isEdge (hs.edges hliteral c hc)]
  obtain ⟨before, s, after, rfl, hbefore, hs, hafter, -, -⟩ := h.split
  have hequal : s = ['='] := by cases hs; rfl
  have hmem : '=' ∉ before := fun hmem => absurd (hbefore.no_comparison _ hmem) (by decide)
  refine ⟨after, hafter, ?_⟩
  rw [Pattern.joinSides, hparens, h.beforeConjunction, hequal, List.singleton_append,
    Text.splitOnce?_append hmem]
  simp only [hbefore.joinSide?]

/-- The two columns of an ON condition are read from its layout. -/
theorem Layout.joinSides {left right : ColumnName}
    (h : Layout [.column left, .operator .equal, .column right] text) :
    Pattern.joinSides text = (some left.ref, some right.ref) := by
  obtain ⟨after, hafter, hsides⟩ := @Layout.joinSides_append _ left [.column right] h (by simp)
  rw [hsides, hafter.joinSide?]

/-! ### WHERE -/

/-- A literal and the blanks around it have no operator in them. -/
theorem Layout.literal_no_comparison {l : Literal} (h : Layout [.literal l] text) :
    ∀ c ∈ text, Pattern.isComparisonPart c = false := by
  refine h.forall_mem (fun _ => isComparisonPart_of_isBlank) ?_
  simp only [List.mem_singleton, forall_eq]
  intro s hs c hc
  cases hs
  simp only [List.mem_cons, List.mem_append, List.not_mem_nil, or_false] at hc
  rcases hc with rfl | hc | rfl
  · decide
  · simpa using List.any_eq_false.1 l.noOperator c hc
  · decide

/-- A quoted text loses its quotes and the blanks around them. -/
theorem Layout.unquoteChars {l : Literal} (h : Layout [.literal l] text) :
    Name.unquoteChars text = l.text.toList := by
  have hspelled := h.spelled
  generalize hs : Text.trimChars text = s at hspelled
  cases hspelled
  simp [Name.unquoteChars, hs, Name.unwrapQuote?]

/-- An operator is taken off as a whole if none goes on behind it. -/
theorem Spelled.afterComparison? {o : Comparison} (h : Spelled (.operator o) s) {rest : List Char}
    (hrest : ∀ c ∈ rest.head?, Pattern.isComparisonPart c = false) :
    Pattern.afterComparison? (s ++ rest) = some (o, rest) := by
  have hne : ∀ {c : Char}, Pattern.isComparisonPart c = true → ∀ tail, rest ≠ c :: tail := by
    rintro c hc tail rfl
    simp [hrest c rfl] at hc
  have hequal := @hne '=' (by decide)
  have hgreater := @hne '>' (by decide)
  cases h with
  | operator o =>
      cases o with
      | less =>
          show Pattern.afterComparison? ('<' :: rest) = _
          rw [Pattern.afterComparison?] <;> simp [hequal, hgreater]
      | greater =>
          show Pattern.afterComparison? ('>' :: rest) = _
          rw [Pattern.afterComparison?]
          simp [hequal]
      | _ => rfl
  | unequal => rfl

/-- The text before the first operator is the column. -/
theorem Layout.span_operator {c : ColumnName} {o : Comparison} (h : Layout [.column c] text)
    (hs : Spelled (.operator o) s) (rest : List Char) :
    (text ++ (s ++ rest)).takeWhile (fun c => !Pattern.isComparisonPart c) = text ∧
      (text ++ (s ++ rest)).dropWhile (fun c => !Pattern.isComparisonPart c) = s ++ rest := by
  have htext : ∀ c ∈ text, (!Pattern.isComparisonPart c) = true := fun c hc => by
    simp [h.no_comparison c hc]
  obtain ⟨d, tail, hcons, hd⟩ : ∃ d tail, s ++ rest = d :: tail ∧
      Pattern.isComparisonPart d = true := by
    cases hs with
    | operator o => cases o <;> exact ⟨_, _, rfl, by decide⟩
    | unequal => exact ⟨_, _, rfl, by decide⟩
  rw [List.takeWhile_append_of_pos htext, List.dropWhile_append_of_pos htext, hcons]
  simp [hd]

/-- Something stands behind the operator, and no other operator. -/
theorem Layout.literal_only {l : Literal} (h : Layout [.literal l] text) :
    (text.isEmpty || text.any Pattern.isComparisonPart) = false := by
  have hany : text.any Pattern.isComparisonPart = false :=
    List.any_eq_false.2 fun c hc => by simp [h.literal_no_comparison c hc]
  have hne : text ≠ [] := by
    rintro rfl
    obtain ⟨c, rest, htrim, -⟩ := h.head_edge
    cases htrim
  simp [hany, hne]

/-- The comparison of a column with a literal is read from its layout. -/
protected theorem Layout.comparison? {c : ColumnName} {o : Comparison} {l : Literal}
    (h : Layout [.column c, .operator o, .literal l] text) :
    Pattern.comparison? text = some ⟨c.ref, o, l.text⟩ := by
  have hsplit : Layout ([.column c] ++ .operator o :: [.literal l]) text := h
  obtain ⟨before, s, after, rfl, hbefore, hs, hafter, -, -⟩ := hsplit.split
  obtain ⟨htake, hdrop⟩ := hbefore.span_operator hs after
  have hliteral : String.ofList (Name.unquoteChars after) = l.text := by
    rw [hafter.unquoteChars, String.ofList_toList]
  have hhead : ∀ c ∈ after.head?, Pattern.isComparisonPart c = false := fun c hc =>
    hafter.literal_no_comparison c (List.mem_of_mem_head? hc)
  rw [Pattern.comparison?]
  simp only [htake, hdrop, hs.afterComparison? hhead, Option.bind_eq_bind, Option.bind_some,
    hafter.literal_only, hbefore.spelled.columnOf?, hliteral]
  rfl

theorem dropWhile_eq_self_of_head {p : Char → Bool} {c : Char} (hc : p c = false) (s : List Char) :
    (c :: s).dropWhile p = c :: s := by
  simp [hc]

/-- No parentheses stand around a layout. -/
theorem Layout.withoutOuterParens (h : Layout ts text) (hne : ts ≠ []) :
    Pattern.withoutOuterParens (Text.trimChars text) = Text.trimChars text := by
  have hfront : (Text.trimChars text).dropWhile (· = '(') = Text.trimChars text := by
    obtain ⟨t, ts, rfl⟩ := List.exists_cons_of_ne_nil hne
    obtain ⟨c, rest, htrim, hc⟩ := h.head_edge
    rw [htrim, dropWhile_eq_self_of_head (by simp [ne_of_isEdge hc])]
  have hback : (Text.trimChars text).reverse.dropWhile (· = ')') =
      (Text.trimChars text).reverse := by
    obtain ⟨before, c, hlast, hc⟩ := h.trimFront.last_edge hne
    rw [Text.trimChars, hlast, List.reverse_append, List.reverse_singleton, List.singleton_append,
      dropWhile_eq_self_of_head (by simp [ne_of_isEdge hc])]
  rw [Pattern.withoutOuterParens, hfront, hback, List.reverse_reverse]

end Conditions

end JoinGraph.Plain
