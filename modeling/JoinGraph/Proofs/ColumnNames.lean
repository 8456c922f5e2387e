import JoinGraph.Proofs.Excerpts
import JoinGraph.Proofs.PlainEntry

/-!
# Names of columns that are read

A text is read as a column if it has the characters of a dotted path, and delimiters and asterisks
are among these.  The delimiters go wherever they stand in the last name of the path, and in a
join condition all parentheses go before.  So the name of a column stands in the statement as one
piece without blanks, but for delimiters and parentheses between its characters, and its
characters are those of plain names and asterisks.

## Main results

* `IsReadName` — a name that stands in a text, but for marks between its characters.
* `columnNames_read` — all names of columns that are read are such names.
-/

namespace JoinGraph.Pattern

open Text (isBlank)

/-! ## Names in a text -/

/-- A name that stands in a text, but for marks between its characters.  It may have asterisks in
it. -/
structure IsReadName (mark : Char → Bool) (text : List Char) (name : String) : Prop where
  ne_empty : name ≠ ""
  parts : ∀ c ∈ name.toList, isNamePart c = true ∨ c = '*'
  stands : ∃ w, w <:+: text ∧ (∀ c ∈ w, isBlank c = false) ∧
    w.filter (fun c => !mark c) = name.toList ∧
    (∀ c ∈ w.head?, mark c = false) ∧ ∀ c ∈ w.getLast?, mark c = false

section Marks

variable {mark : Char → Bool}

theorem filter_dropWhile (s : List Char) :
    (s.dropWhile mark).filter (fun c => !mark c) = s.filter (fun c => !mark c) := by
  induction s with
  | nil => rfl
  | cons c s ih => by_cases hc : mark c = true <;> simp [hc, ih]

theorem filter_rdropWhile (s : List Char) :
    (s.rdropWhile mark).filter (fun c => !mark c) = s.filter (fun c => !mark c) := by
  rw [List.rdropWhile, List.filter_reverse, filter_dropWhile, List.filter_reverse,
    List.reverse_reverse]

variable (mark) in
/-- The marks around a piece of a text do not count. -/
theorem exists_unmarked_ends (w : List Char) : ∃ v, v <:+: w ∧
    v.filter (fun c => !mark c) = w.filter (fun c => !mark c) ∧
    (∀ c ∈ v.head?, mark c = false) ∧ ∀ c ∈ v.getLast?, mark c = false := by
  have hback : (w.dropWhile mark).rdropWhile mark <+: w.dropWhile mark := List.rdropWhile_prefix _ _
  refine ⟨(w.dropWhile mark).rdropWhile mark,
    hback.isInfix.trans (List.dropWhile_suffix _).isInfix, ?_, fun c hc => ?_, fun c hc => ?_⟩
  · rw [filter_rdropWhile, filter_dropWhile]
  · obtain ⟨rest, hrest⟩ := List.head?_eq_some_iff.1 hc
    have hhead : (w.dropWhile mark).head? = some c := by
      obtain ⟨t, ht⟩ := hback
      rw [← ht, hrest]
      rfl
    simpa [hhead] using List.head?_dropWhile_not mark w
  · have hne : (w.dropWhile mark).rdropWhile mark ≠ [] := by
      intro hnil
      simp [hnil] at hc
    have hlast := List.rdropWhile_last_not mark (w.dropWhile mark) hne
    rw [List.getLast?_eq_some_getLast hne, Option.mem_some_iff] at hc
    simpa [hc] using hlast

end Marks

namespace IsReadName

variable {mark : Char → Bool} {text longer : List Char} {name : String}

theorem mono (h : IsReadName mark text name) (htext : text <:+: longer) :
    IsReadName mark longer name := by
  obtain ⟨w, hw, hrest⟩ := h.stands
  exact ⟨h.ne_empty, h.parts, w, hw.trans htext, hrest⟩

/-- A name that is read from a text without comments stands in the text. -/
theorem of_prepare (h : IsReadName mark (prepare text) name) : IsReadName mark text name := by
  obtain ⟨w, hw, hblank, hrest⟩ := h.stands
  exact ⟨h.ne_empty, h.parts, w, infix_of_prepare hblank hw, hblank, hrest⟩

/-- Without asterisks and marks it is a plain name that stands in the text as it is. -/
theorem plain (h : IsReadName mark text name) (hstar : '*' ∉ text)
    (hmark : ∀ c ∈ text, mark c = false) :
    (∀ c ∈ name.toList, isNamePart c = true) ∧ name.toList <:+: text := by
  obtain ⟨w, hw, -, hfilter, -⟩ := h.stands
  have hname : name.toList = w :=
    hfilter.symm.trans (List.filter_eq_self.2 fun c hc => by simp [hmark c (hw.subset hc)])
  rw [hname]
  refine ⟨fun c hc => (h.parts c (hname ▸ hc)).resolve_right ?_, hw⟩
  rintro rfl
  exact hstar (hw.subset hc)

end IsReadName

/-! ## Columns -/

theorem not_isBlank_of_isPathPart {c : Char} (h : isPathPart c = true) : isBlank c = false := by
  refine Bool.eq_false_iff.2 fun hc => ?_
  have hname : isNamePart c = false := by
    rw [isNamePart, Text.isAlphanumeric_of_isBlank hc, Bool.false_or, Bool.or_eq_false_iff]
    constructor <;> (rw [beq_eq_false_iff_ne]; rintro rfl; revert hc; decide)
  simp only [isPathPart, hname, Name.isDelimiter, Bool.false_or, Bool.or_eq_true, beq_iff_eq] at h
  rcases h with (rfl | rfl) | ((rfl | rfl) | rfl) | rfl <;> (revert hc; decide)

theorem mem_of_ofSegments? {segments : List (List Char)} {ref : ColumnRef}
    (h : ColumnRef.ofSegments? segments = some ref) :
    ref.column.toList ∈ segments ∧ ref.column ≠ "" := by
  fun_induction ColumnRef.ofSegments? segments with
  | case1 => cases h
  | case2 => cases h
  | case3 column hne =>
      cases h
      simpa using hne
  | case4 => cases h
  | case5 table column hne =>
      cases h
      simpa using hne
  | case6 _ rest _ _ ih => exact ⟨List.mem_cons_of_mem _ (ih h).1, (ih h).2⟩

/-- The name of a column that is read from a path stands in the path, but for delimiters. -/
theorem isReadName_columnOf? {text : List Char} {ref : ColumnRef} (h : columnOf? text = some ref) :
    IsReadName Name.isDelimiter text ref.column := by
  rw [columnOf?, Option.ite_none_right_eq_some] at h
  obtain ⟨hpath, href⟩ := h
  simp only [isColumnPath, Bool.and_eq_true] at hpath
  have hparts : ∀ c ∈ text, isPathPart c = true := List.all_eq_true.1 hpath.2
  have hblank : ∀ c ∈ text, isBlank c = false := fun c hc => not_isBlank_of_isPathPart (hparts c hc)
  rw [ColumnRef.ofPathChars?, Text.trimChars_of_no_blank hblank] at href
  obtain ⟨hmem, hne⟩ := mem_of_ofSegments? href
  obtain ⟨part, hpart, hname⟩ := List.mem_map.1 hmem
  have hwithin : part <:+: text := infix_of_mem_splitChars hpart
  have hbare : part.filter (fun c => !Name.isDelimiter c) = ref.column.toList := by
    rw [← hname, Name.bareChars, Text.trimChars_of_no_blank fun c hc =>
      hblank c (hwithin.subset (List.mem_filter.1 hc).1)]
  refine ⟨hne, fun c hc => ?_, ?_⟩
  · rw [← hbare, List.mem_filter] at hc
    have hdot : c ≠ '.' := fun hdot => not_mem_of_mem_splitChars hpart (hdot ▸ hc.1)
    have hc' := hparts c (hwithin.subset hc.1)
    simp only [isPathPart, Bool.or_eq_true, beq_iff_eq] at hc'
    rcases hc' with ((hc' | hc') | hc') | hc'
    · exact .inl hc'
    · exact absurd hc' hdot
    · exact .inr hc'
    · simp [hc'] at hc
  · obtain ⟨v, hv, hfilter, hends⟩ := exists_unmarked_ends Name.isDelimiter part
    exact ⟨v, hv.trans hwithin, fun c hc => hblank c ((hv.trans hwithin).subset hc),
      hfilter.trans hbare, hends⟩

/-! ### The SELECT list -/

section Columns

variable {s text : List Char}

theorem splitAs?_isPrefix {parts : List Char × List Char} (h : splitAs? s = some parts) :
    parts.1 <+: s := by
  induction s generalizing parts with
  | nil => cases h
  | cons c s ih =>
      rw [Plain.splitAs?_cons] at h
      split at h
      · cases h
        exact List.nil_prefix
      · obtain ⟨further, hfurther, rfl⟩ := Option.map_eq_some_iff.1 h
        exact List.cons_prefix_cons.2 ⟨rfl, ih hfurther⟩

theorem splitAlias_isInfix (item : List Char) : (splitAlias item).1 <:+: item := by
  rw [splitAlias]
  split
  · next expr name h => exact (Text.trimChars_isInfix expr).trans (splitAs?_isPrefix h).isInfix
  · split
    · next expr name hwords =>
        split
        · exact (Text.mem_words (hwords ▸ List.mem_cons_self)).1
        · exact List.infix_refl item
    · exact List.infix_refl item

theorem withoutModifier_isSuffix (list : List Char) : withoutModifier list <:+ list := by
  rw [withoutModifier]
  cases h : ["distinct", "all"].findSome? fun word =>
      (afterWord? word.toList (Text.trimFront list)).bind afterBlanks? with
  | none => exact List.suffix_refl list
  | some rest =>
      obtain ⟨word, -, hword⟩ := List.exists_of_findSome?_eq_some h
      obtain ⟨t, ht, hrest⟩ := Option.bind_eq_some_iff.1 hword
      have hfront := Text.trimFront_isSuffix list
      exact ((afterBlanks?_isSuffix hrest).trans (afterWord?_isSuffix ht)).trans hfront

theorem isReadName_column? {c : Shape.Flat.Column} (h : column? text = some c) :
    IsReadName Name.isDelimiter text c.ref.column ∧ c.ref.column ≠ "*" := by
  simp only [column?, Option.bind_eq_bind] at h
  obtain ⟨ref, href, h⟩ := Option.bind_eq_some_iff.1 h
  split at h
  · cases h
  · next hstar =>
      cases h
      have hwithin := (splitAlias_isInfix (Text.trimChars text)).trans (Text.trimChars_isInfix text)
      exact ⟨(isReadName_columnOf? href).mono hwithin, hstar⟩

/-- A column of the SELECT list is named in the text, and is no `*`. -/
theorem isReadName_columns {c : Shape.Flat.Column} (h : c ∈ columns text) :
    IsReadName Name.isDelimiter text c.ref.column ∧ c.ref.column ≠ "*" := by
  rw [columns] at h
  split at h
  · cases h
  · next select hselect =>
      split at h
      · cases h
      · next found hfound =>
          obtain ⟨entry, hentry, hcolumn⟩ := List.mem_filterMap.1 h
          have hlist : entry <:+: found.before :=
            (infix_of_mem_splitTop hentry).trans (withoutModifier_isSuffix _).isInfix
          have hbefore := (first?_isInfix (cuts_wholeWord "from") hfound).1.isInfix
          have hafter := (first?_isInfix (cuts_wordAndBlanks "select") hselect).2.isInfix
          exact (isReadName_column? hcolumn).imp_left fun hname =>
            hname.mono ((hlist.trans hbefore).trans hafter)

end Columns

/-! ### Join conditions -/

section Joins

variable {text : List Char} {ref : ColumnRef}

/-- The marks that do not count in a join condition. -/
def isMark (c : Char) : Bool := Name.isDelimiter c || (c == '(' || c == ')')

theorem IsReadName.of_filter {name : String}
    (h : IsReadName Name.isDelimiter (text.filter fun c => !(c == '(' || c == ')')) name) :
    IsReadName isMark text name := by
  obtain ⟨w, hw, hblank, hname, -⟩ := h.stands
  obtain ⟨v, hv, rfl⟩ := infix_of_filter hw
  obtain ⟨u, hu, hmarks, hends⟩ := exists_unmarked_ends isMark v
  have hvblank : ∀ c ∈ v, isBlank c = false := by
    intro c hc
    by_cases hparen : (c == '(' || c == ')') = true
    · rw [Bool.or_eq_true, beq_iff_eq, beq_iff_eq] at hparen
      rcases hparen with rfl | rfl <;> decide
    · exact hblank c (List.mem_filter.2 ⟨hc, by simp [hparen]⟩)
  refine ⟨h.ne_empty, h.parts, u, hu.trans hv, fun c hc => hvblank c (hu.subset hc), ?_, hends⟩
  rw [hmarks, ← hname, List.filter_filter]
  exact List.filter_congr fun c _ => by rw [isMark, Bool.not_or]

theorem isReadName_joinSide? (h : joinSide? text = some ref) :
    IsReadName Name.isDelimiter text ref.column := by
  rw [joinSide?] at h
  split at h
  · cases h
  · exact (isReadName_columnOf? h).mono (Text.trimChars_isInfix text)

theorem isReadName_joinSides (h : (joinSides text).1 = some ref ∨ (joinSides text).2 = some ref) :
    IsReadName isMark text ref.column := by
  refine IsReadName.of_filter ?_
  rw [joinSides] at h
  generalize text.filter (fun c => !(c == '(' || c == ')')) = condition at h ⊢
  have hconjunct := (beforeConjunction_isPrefix condition).isInfix
  split at h
  · next left right hsplit =>
      obtain ⟨hleft, hright⟩ := Text.splitOnce?_isInfix hsplit
      rcases h with h | h
      · exact (isReadName_joinSide? h).mono (hleft.trans hconjunct)
      · exact (isReadName_joinSide? h).mono (hright.trans hconjunct)
  · rcases h with h | h <;> cases h

theorem isReadName_join? {found : Occurrence} {j : Shape.Flat.Join} (h : join? found = some j)
    (href : j.left = some ref ∨ j.right = some ref) : IsReadName isMark found.after ref.column := by
  have hclause := (textBefore_isPrefix (cuts_anyWord clauseEnds) found.after).isInfix
  rw [join?] at h
  generalize textBefore (anyWord clauseEnds) found.after = clause at h hclause
  obtain ⟨t, -, rfl⟩ := Option.map_eq_some_iff.1 h
  cases hon : first? (wholeWord "on") clause with
  | none => simp [hon] at href
  | some on =>
      simp only [hon] at href
      have hafter := (first?_isInfix (cuts_wholeWord "on") hon).2.isInfix
      exact (isReadName_joinSides href).mono (hafter.trans hclause)

/-- The sides of a join condition are named in the text. -/
theorem isReadName_joins {j : Shape.Flat.Join} (h : j ∈ joins text)
    (href : j.left = some ref ∨ j.right = some ref) : IsReadName isMark text ref.column := by
  obtain ⟨found, hfound, hjoin⟩ := List.mem_filterMap.1 h
  have hafter := (mem_occurrences (cuts_wordAndBlanks "join") hfound).2.isInfix
  exact (isReadName_join? hjoin href).mono hafter

end Joins

/-! ### Conditions -/

section Conditions

variable {text : List Char} {c : Condition}

theorem withoutOuterParens_isInfix (s : List Char) : withoutOuterParens s <:+: s :=
  (List.rdropWhile_prefix _ _).isInfix.trans (List.dropWhile_suffix _).isInfix

theorem isReadName_comparison? (h : comparison? text = some c) :
    IsReadName Name.isDelimiter text c.left.column := by
  simp only [comparison?, Option.bind_eq_bind] at h
  obtain ⟨found, -, h⟩ := Option.bind_eq_some_iff.1 h
  split at h
  · cases h
  · obtain ⟨ref, href, h⟩ := Option.bind_eq_some_iff.1 h
    cases h
    exact (isReadName_columnOf? href).mono
      ((Text.trimChars_isInfix _).trans (List.takeWhile_prefix _).isInfix)

/-- The column of a comparison is named in the text. -/
theorem isReadName_condition? (h : condition? text = some c) :
    IsReadName Name.isDelimiter text c.left.column := by
  simp only [condition?, Option.bind_eq_bind] at h
  obtain ⟨found, hfound, h⟩ := Option.bind_eq_some_iff.1 h
  have hafter := (first?_isInfix (cuts_wholeWord "where") hfound).2.isInfix
  have hend := (textBefore_isPrefix (cuts_anyWord conditionEnds) found.after).isInfix
  have hcut : ∀ s : List Char, withoutOuterParens (Text.trimChars (beforeConjunction s)) <:+: s :=
    fun s =>
    ((withoutOuterParens_isInfix _).trans (Text.trimChars_isInfix _)).trans
      (beforeConjunction_isPrefix s).isInfix
  exact (isReadName_comparison? h).mono
    (((hcut _).trans (Text.trimChars_isInfix _)).trans (hend.trans hafter))

end Conditions

end JoinGraph.Pattern

namespace JoinGraph

open Pattern (IsReadName isMark isNamePart)

/-- The names of all columns that are read, in the SELECT list, in join conditions and in the
condition. -/
def Shape.Flat.Select.columnNames (s : Shape.Flat.Select) : List String :=
  s.columns.map (·.ref.column) ++ (s.joins.flatMap fun j =>
    j.left.toList ++ j.right.toList).map (·.column)
    ++ s.condition.toList.map (·.left.column)

/--
The name of a column that is read is not empty and stands in the statement in one piece without
blanks, but for delimiters between its characters, and in a join condition parentheses.  It has
the characters of plain names and asterisks; a column of the SELECT list is no asterisk alone.  So
all are plain names that stand in the statement as they are, if no asterisks, delimiters and
parentheses do.
-/
theorem columnNames_read (sql : String) :
    (∀ c ∈ (Pattern.read sql).columns,
      IsReadName Name.isDelimiter sql.toList c.ref.column ∧ c.ref.column ≠ "*") ∧
    (∀ j ∈ (Pattern.read sql).joins, ∀ c, j.left = some c ∨ j.right = some c →
      IsReadName isMark sql.toList c.column) ∧
    (∀ c ∈ (Pattern.read sql).condition, IsReadName Name.isDelimiter sql.toList c.left.column) ∧
    ((∀ c ∈ sql.toList, c ≠ '*' ∧ isMark c = false) → ∀ name ∈ (Pattern.read sql).columnNames,
      (∀ c ∈ name.toList, isNamePart c = true) ∧ name.toList <:+: sql.toList) := by
  have hcolumns : ∀ c ∈ (Pattern.read sql).columns,
      IsReadName Name.isDelimiter sql.toList c.ref.column ∧ c.ref.column ≠ "*" := fun c hc =>
    (Pattern.isReadName_columns hc).imp_left IsReadName.of_prepare
  have hjoins : ∀ j ∈ (Pattern.read sql).joins, ∀ c, j.left = some c ∨ j.right = some c →
      IsReadName isMark sql.toList c.column := fun j hj c hc =>
    (Pattern.isReadName_joins hj hc).of_prepare
  have hcondition : ∀ c ∈ (Pattern.read sql).condition,
      IsReadName Name.isDelimiter sql.toList c.left.column := fun c hc =>
    (Pattern.isReadName_condition? hc).of_prepare
  refine ⟨hcolumns, hjoins, hcondition, fun hsigns name hname => ?_⟩
  have hstar : '*' ∉ sql.toList := fun hmem => (hsigns _ hmem).1 rfl
  have hmark : ∀ c ∈ sql.toList, isMark c = false := fun c hc => (hsigns c hc).2
  have hdelimiter : ∀ c ∈ sql.toList, Name.isDelimiter c = false := fun c hc =>
    (Bool.or_eq_false_iff.1 (hmark c hc)).1
  simp only [Shape.Flat.Select.columnNames, List.mem_append, List.mem_map, List.mem_flatMap,
    Option.mem_toList] at hname
  rcases hname with (⟨c, hc, rfl⟩ | ⟨c, ⟨j, hj, hc⟩, rfl⟩) | ⟨c, hc, rfl⟩
  · exact (hcolumns c hc).1.plain hstar hdelimiter
  · exact (hjoins j hj c hc).plain hstar hmark
  · exact (hcondition c hc).plain hstar hdelimiter

/-- A statement with delimiters and parentheses around names of columns. -/
def delimitedText : String := "SELECT s.\x60id\x60 FROM t JOIN u ON (t.x) = u.[y] WHERE t.z = 1"

theorem columnNames_read_delimited :
    IsReadName Name.isDelimiter delimitedText.toList "id" ∧
      IsReadName isMark delimitedText.toList "y" ∧
      IsReadName Name.isDelimiter delimitedText.toList "z" := by
  have h := columnNames_read delimitedText
  exact ⟨(h.1 ⟨⟨some "s", "id"⟩, none⟩ (by decide +kernel)).1,
    h.2.1 ⟨"u", none, some ⟨some "t", "x"⟩, some ⟨some "u", "y"⟩⟩ (by decide +kernel)
      ⟨some "u", "y"⟩
      (.inr rfl),
    h.2.2.1 ⟨⟨some "t", "z"⟩, .equal, "1"⟩ (by decide +kernel)⟩

/-- Products, elements of arrays, calls and wildcards are read as columns. -/
theorem columnNames_read_computed :
    (Pattern.read "SELECT a*b FROM t").columnNames = ["a*b"] ∧ isNamePart '*' = false ∧
      (Pattern.read "SELECT arr[1] FROM t").columnNames = ["arr1"] ∧
      ¬"arr1".toList <:+: "SELECT arr[1] FROM t".toList ∧
      (Pattern.read "SELECT t.price*t.qty FROM t").columns = [⟨⟨some "price*t", "qty"⟩, none⟩] ∧
      (Pattern.read "SELECT x FROM t JOIN u ON f(t.x) = u.*").joins =
        [⟨"u", none, some ⟨some "ft", "x"⟩, some ⟨some "u", "*"⟩⟩] := by
  refine ⟨?_, ?_, ?_, ?_, ?_, ?_⟩ <;> decide +kernel

end JoinGraph
