import JoinGraph.Proofs.CommentsAsBlanks
import JoinGraph.Proofs.HiddenText

/-!
# Tables do not depend on hidden text

Keywords and commas are looked for on the top level, but the words of a table entry are cut at
blanks wherever these stand, so a quoted text may reach them.  It does no harm: a word in which a
quote or a parenthesis opens is no name, and a reader of entries does not look behind it.

## Main results

* `Alike.table?`, `Alike.tables`, `Alike.joins` — the readers of tables, on texts that are alike.
* `alike_quoted`, `alike_nested` — texts that are alike once their comments are gone.
* `sameTables_read` — what is read of a text does not depend on what its quotes and parentheses
  hold.
-/

namespace JoinGraph.Pattern

open Text (isBlank)
open Shape.Flat (Table)

/-! ## Words -/

/-- A word in which a quote or a parenthesis opens. -/
def Broken (word : List Char) : Prop := ∃ c ∈ word, c = '\'' ∨ c = '('

/-- Lists of words that are the same up to a broken word. -/
inductive SameWords : List (List Char) → List (List Char) → Prop where
  | nil : SameWords [] []
  | cons {words words' : List (List Char)} (word : List Char) (h : SameWords words words') :
      SameWords (word :: words) (word :: words')
  | broken {word word' : List Char} {words words' : List (List Char)} (h : Broken word)
      (h' : Broken word') : SameWords (word :: words) (word' :: words')

theorem exists_wordsFrom {word : List Char} {c : Char} (hc : c ∈ word) (s : List Char) :
    ∃ first words, Text.wordsFrom word s = first :: words ∧ c ∈ first := by
  have hword : word.isEmpty = false := by
    cases word with
    | nil => cases hc
    | cons => rfl
  induction s generalizing word with
  | nil => exact ⟨word.reverse, [], by simp [Text.wordsFrom, hword], List.mem_reverse.2 hc⟩
  | cons d s ih =>
      by_cases hd : isBlank d = true
      · exact ⟨word.reverse, Text.wordsFrom [] s, by simp [Text.wordsFrom, hd, hword],
          List.mem_reverse.2 hc⟩
      · rw [Text.wordsFrom, if_neg hd]
        exact ih (List.mem_cons_of_mem _ hc) rfl

protected theorem Alike.wordsFrom {n : Nesting} {s t : List Char} (h : Alike n s t)
    (word : List Char) : SameWords (Text.wordsFrom word s) (Text.wordsFrom word t) := by
  have hrefl : ∀ words, SameWords words words := fun words => by
    induction words with
    | nil => exact .nil
    | cons word words ih => exact .cons word ih
  induction h generalizing word with
  | nil => exact hrefl _
  | char c _ ih =>
      rw [Text.wordsFrom, Text.wordsFrom]
      by_cases hc : isBlank c = true
      · rw [if_pos hc, if_pos hc]
        split
        · exact ih []
        · exact .cons _ (ih [])
      · rw [if_neg hc, if_neg hc]
        exact ih (c :: word)
  | @hidden n opening closing x y s t hx _ _ _ =>
      have hopening : ¬isBlank opening = true := by simp [hx.not_isBlank]
      rw [Text.wordsFrom, Text.wordsFrom, if_neg hopening, if_neg hopening]
      obtain ⟨first, words, hfirst, hmem⟩ :=
        exists_wordsFrom (List.mem_cons_self (a := opening) (l := word)) (x ++ closing :: s)
      obtain ⟨first', words', hfirst', hmem'⟩ :=
        exists_wordsFrom (List.mem_cons_self (a := opening) (l := word)) (y ++ closing :: t)
      rw [hfirst, hfirst']
      exact .broken ⟨opening, hmem, hx.opens⟩ ⟨opening, hmem', hx.opens⟩

namespace Broken

variable {word : List Char}

/-- A broken word stays broken without its delimiters. -/
theorem bareChars (h : Broken word) : Broken (Name.bareChars word) := by
  obtain ⟨c, hc, hopens⟩ := h
  have hchar : isBlank c = false ∧ Name.isDelimiter c = false := by
    rcases hopens with rfl | rfl <;> decide
  have hfilter : c ∈ word.filter fun c => !Name.isDelimiter c := by simp [hc, hchar.2]
  exact ⟨c, Text.mem_trimChars hchar.1 hfilter, hopens⟩

/-- A broken word is no name. -/
theorem not_all (h : Broken word) : word.all isNamePart = false := by
  obtain ⟨c, hc, hopens⟩ := h
  have hpart : isNamePart c = false := by rcases hopens with rfl | rfl <;> decide
  exact List.all_eq_false.2 ⟨c, hc, by simp [hpart]⟩

theorem isPlainName (h : Broken word) : isPlainName word = false := by
  simp [Pattern.isPlainName, h.bareChars.not_all]

theorem isTablePath (h : Broken word) : isTablePath word = false := by
  obtain ⟨c, hc, hopens⟩ := h
  have hpart : (isNamePart c || c == '.') = false := by rcases hopens with rfl | rfl <;> decide
  have hall : (word.all fun c => isNamePart c || c == '.') = false :=
    List.all_eq_false.2 ⟨c, hc, by simp [hpart]⟩
  simp [Pattern.isTablePath, hall]

theorem equalFold_as (h : Broken word) : Text.equalFold (String.ofList word) "as" = false := by
  obtain ⟨c, hc, hopens⟩ := h
  refine Bool.eq_false_iff.2 fun hequal => ?_
  rw [Text.equalFold, String.toList_ofList, beq_iff_eq] at hequal
  have hmem : Text.asciiLower c ∈ "as".toList.map Text.asciiLower :=
    hequal ▸ List.mem_map_of_mem hc
  revert hmem
  rcases hopens with rfl | rfl <;> decide

/-- Neither as an alias nor in front of one a broken word is read. -/
theorem aliasAmong?_eq (h : Broken word) (words : List (List Char)) :
    aliasAmong? (word :: words) = none := by
  simp [aliasAmong?, h.equalFold_as, h.bareChars.isPlainName]

end Broken

theorem SameWords.aliasAmong? {words words' : List (List Char)} (h : SameWords words words') :
    aliasAmong? words = aliasAmong? words' := by
  cases h with
  | nil => rfl
  | broken h h' => rw [h.aliasAmong?_eq, h'.aliasAmong?_eq]
  | cons word h =>
      by_cases has : Text.equalFold (String.ofList word) "as" = true
      · simp only [Pattern.aliasAmong?, has, if_true]
        cases h with
        | nil => rfl
        | cons => rfl
        | broken h h' => simp [h.bareChars.isPlainName, h'.bareChars.isPlainName]
      · simp only [Pattern.aliasAmong?, has]
        rfl

/-! ## Readers of tables -/

namespace Alike

variable {s t : List Char}

theorem trimBack {n : Nesting} (h : Alike n s t) : Alike n (Text.trimBack s) (Text.trimBack t) :=
  h.rdropWhile fun c hc => by rcases hc with rfl | rfl <;> decide

/-- The same table is read from entries that are alike. -/
protected theorem table? (h : Alike .top s t) : table? s = table? t := by
  have htrim : Alike .top (Text.trimChars s) (Text.trimChars t) := (h.trimFront rfl).trimBack
  have hwords : SameWords (Text.words (Text.trimChars s)) (Text.words (Text.trimChars t)) :=
    htrim.wordsFrom []
  simp only [Pattern.table?, htrim.head?_eq]
  split
  · rfl
  · generalize Text.words (Text.trimChars s) = words at hwords
    generalize Text.words (Text.trimChars t) = words' at hwords
    cases hwords with
    | nil => rfl
    | cons word hrest => simp only [hrest.aliasAmong?]
    | broken h h' => simp [h.bareChars.isTablePath, h'.bareChars.isTablePath]

/-- Reading lists whose items are related gives the same if related items are read the same. -/
theorem map_eq_of_forall₂ {α β : Type} {r : α → α → Prop} {read : α → β} {l l' : List α}
    (h : List.Forall₂ r l l') (hread : ∀ a b, r a b → read a = read b) :
    l.map read = l'.map read := by
  have hrel : List.Forall₂ (· = ·) (l.map read) (l'.map read) :=
    List.rel_map (fun a b => hread a b) h
  rwa [List.forall₂_eq_eq_eq] at hrel

theorem filterMap_eq_of_forall₂ {α β : Type} {r : α → α → Prop} {read : α → Option β}
    {l l' : List α} (h : List.Forall₂ r l l') (hread : ∀ a b, r a b → read a = read b) :
    l.filterMap read = l'.filterMap read := by
  have hmap : ∀ l : List α, l.filterMap read = (l.map read).filterMap id := fun l => by
    rw [List.filterMap_map, Function.id_comp]
  rw [hmap, hmap, map_eq_of_forall₂ h hread]

theorem respects_clauseEnds : (anyWord clauseEnds).Respects :=
  respects_anyWord (by decide)

/-- The same tables are read from texts that are alike. -/
protected theorem tables (h : Alike .top s t) : tables s = tables t := by
  have hfrom := respects_wholeWord (by decide : IsKeyword "from")
  rw [Pattern.tables, Pattern.tables, List.flatMap_def, List.flatMap_def]
  refine congrArg List.flatten
    (map_eq_of_forall₂ (h.occurrences hfrom) fun found found' hfound => ?_)
  have hlist := hfound.after.textBefore (respects_clauseEnds.either respects_paren)
  exact filterMap_eq_of_forall₂ hlist.splitTop fun _ _ hentry => hentry.table?

/-- The table of a join is the entry in front of `on`. -/
theorem map_join? (found : Occurrence) :
    (join? found).map (fun j => (⟨j.table, j.alias?⟩ : Table)) =
      table? (textBefore (wholeWord "on") (textBefore (anyWord clauseEnds) found.after)) := by
  generalize hclause : textBefore (anyWord clauseEnds) found.after = clause
  rw [join?, hclause, Pattern.textBefore]
  cases first? (wholeWord "on") clause <;> simp [Option.map_map, Function.comp_def]

/-- The same tables are joined in texts that are alike. -/
protected theorem joins (h : Alike .top s t) :
    (joins s).map (fun j => (⟨j.table, j.alias?⟩ : Table)) =
      (joins t).map fun j => (⟨j.table, j.alias?⟩ : Table) := by
  have hjoin := respects_wordAndBlanks (by decide : IsKeyword "join")
  have hon := respects_wholeWord (by decide : IsKeyword "on")
  simp only [Pattern.joins, List.map_filterMap, map_join?]
  refine filterMap_eq_of_forall₂ (h.occurrences hjoin) fun found found' hfound => ?_
  exact ((hfound.after.textBefore respects_clauseEnds).textBefore hon).table?

end Alike

/-! ## Whole texts -/

/-- Texts that are alike without their comments are alike when they are read. -/
theorem alike_prepare {s t : List Char} (h : Alike .top (withoutComments s) (withoutComments t)) :
    Alike .top (prepare s) (prepare t) := by
  have htrim := (h.trimFront rfl).trimBack
  have hsemicolons := htrim.rdropWhile (p := (· = ';')) fun c hc => by
    rcases hc with rfl | rfl <;> decide
  exact hsemicolons.trimBack

/-- A text that may stand in parentheses: where it ends, no quote, no comment and no parenthesis
of its own is open, and before that it does not close the parenthesis in which it stands. -/
structure Enclosable (x : List Char) : Prop where
  outside : EndsOutside x
  balanced : Balanced (withoutComments x)

instance (x : List Char) : Decidable (Enclosable x) :=
  decidable_of_iff (EndsOutside x ∧ Balanced (withoutComments x))
    ⟨fun ⟨houtside, hbalanced⟩ => ⟨houtside, hbalanced⟩, fun h => ⟨h.outside, h.balanced⟩⟩

section Whole

variable {p x y : List Char}

/-- Parentheses start and end no comment. -/
theorem withoutComments_nested (hp : EndsOutside p) (hx : EndsOutside x) (q : List Char) :
    withoutComments (p ++ '(' :: (x ++ ')' :: q)) =
      withoutComments p ++ '(' :: (withoutComments x ++ ')' :: withoutComments q) := by
  have hparen : ∀ {c : Char} (s : List Char), c = '(' ∨ c = ')' →
      withoutComments (c :: s) = c :: withoutComments s := by
    rintro c s (rfl | rfl) <;>
      exact withoutCommentsFrom_cons (by decide) (by decide) s
  rw [withoutComments_append hp (by simp) (by simp), hparen _ (.inl rfl),
    withoutComments_append hx (by simp) (by simp), hparen _ (.inr rfl)]

/-- Texts with another text in quotes are alike. -/
theorem alike_quoted (hp : EndsOutside p) (hx : '\'' ∉ x) (hy : '\'' ∉ y) (q : List Char) :
    Alike .top (prepare (p ++ '\'' :: (x ++ '\'' :: q)))
      (prepare (p ++ '\'' :: (y ++ '\'' :: q))) := by
  have hquote := quote_after_withoutComments hp (n := .top) rfl
  refine alike_prepare ?_
  rw [withoutComments_quoted hp rfl hx, withoutComments_quoted hp rfl hy]
  exact (Alike.refl _ _).append (.hidden (.quoted hquote hx) (.quoted hquote hy) (.refl _ _))

/-- Texts with another text in parentheses are alike. -/
theorem alike_nested (hp : EndsOutside p) (hx : Enclosable x) (hy : Enclosable y) (q : List Char) :
    Alike .top (prepare (p ++ '(' :: (x ++ ')' :: q)))
      (prepare (p ++ '(' :: (y ++ ')' :: q))) := by
  have hquote := quote_after_withoutComments hp (n := .top) rfl
  refine alike_prepare ?_
  rw [withoutComments_nested hp hx.outside, withoutComments_nested hp hy.outside]
  exact (Alike.refl _ _).append
    (.hidden (.nested hquote hx.balanced) (.nested hquote hy.balanced) (.refl _ _))

end Whole

/-- The same tables and the same joined tables, with the same aliases. -/
structure SameTables (found found' : Shape.Flat.Select) : Prop where
  tables : found.tables = found'.tables
  joined : found.joins.map (fun j => (⟨j.table, j.alias?⟩ : Table)) =
    found'.joins.map fun j => (⟨j.table, j.alias?⟩ : Table)

theorem sameTables_of_alike {s t : String} (h : Alike .top (prepare s.toList) (prepare t.toList)) :
    SameTables (read s) (read t) :=
  ⟨h.tables, h.joins⟩

end JoinGraph.Pattern

namespace JoinGraph

open Pattern (EndsOutside Enclosable SameTables)

/--
The tables that are read of a text, joined or not, do not depend on what stands in a quoted text
or in parentheses, wherever these open outside of quotes and comments.
-/
theorem sameTables_read {p : String} (hp : EndsOutside p.toList) (q : String) :
    (∀ x y : String, '\'' ∉ x.toList → '\'' ∉ y.toList →
      SameTables (Pattern.read (p ++ "'" ++ x ++ "'" ++ q))
        (Pattern.read (p ++ "'" ++ y ++ "'" ++ q))) ∧
    (∀ x y : String, Enclosable x.toList → Enclosable y.toList →
      SameTables (Pattern.read (p ++ "(" ++ x ++ ")" ++ q))
        (Pattern.read (p ++ "(" ++ y ++ ")" ++ q))) := by
  refine ⟨fun x y hx hy => Pattern.sameTables_of_alike ?_,
    fun x y hx hy => Pattern.sameTables_of_alike ?_⟩
  · simpa using Pattern.alike_quoted hp hx hy q.toList
  · simpa using Pattern.alike_nested hp hx hy q.toList

/-- Neither the name in quotes nor the query in parentheses reaches the tables around them. -/
theorem sameTables_read_labelled :
    EndsOutside "SELECT a FROM t AS ".toList ∧
    '\'' ∉ "x, u JOIN v (".toList ∧ '\'' ∉ "".toList ∧
    Enclosable "SELECT ')' FROM v -- (\n JOIN w ON (1 = 1)".toList ∧ Enclosable "b".toList ∧
    SameTables
      (Pattern.read ("SELECT a FROM t AS " ++ "'" ++ "x, u JOIN v (" ++ "'" ++ ", s JOIN r ON 1"))
        (Pattern.read ("SELECT a FROM t AS " ++ "'" ++ "" ++ "'" ++ ", s JOIN r ON 1")) ∧
    SameTables
      (Pattern.read
        ("SELECT a FROM t AS " ++ "(" ++ "SELECT ')' FROM v -- (\n JOIN w ON (1 = 1)" ++ ")" ++
        ", s JOIN r ON 1"))
      (Pattern.read ("SELECT a FROM t AS " ++ "(" ++ "b" ++ ")" ++ ", s JOIN r ON 1")) := by
  have hp : EndsOutside "SELECT a FROM t AS ".toList := by decide +kernel
  have hx : '\'' ∉ "x, u JOIN v (".toList := by decide
  have hy : '\'' ∉ "".toList := by decide
  have hquery : Enclosable "SELECT ')' FROM v -- (\n JOIN w ON (1 = 1)".toList := by decide +kernel
  have hname : Enclosable "b".toList := by decide +kernel
  exact ⟨hp, hx, hy, hquery, hname, (sameTables_read hp _).1 _ _ hx hy,
    (sameTables_read hp _).2 _ _ hquery hname⟩

end JoinGraph
