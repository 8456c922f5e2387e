import JoinGraph.Proofs.LetterCase
import JoinGraph.Proofs.PlainEntry

/-!
# Statements in lower case

Reading by pattern takes no notice of the case of ASCII letters.  From a statement in lower case
the same tree is read as from the statement itself, with all its texts in lower case: the readers
of the clauses test only for keywords, for classes of characters and for characters that are no
letters, and cut out the rest as it stands.

## Main results

* `columns_map`, `tables_map`, `joins_map`, `condition?_map` — the clauses of a text in lower case.
* `read_letterCase` — statements that differ in letter case are read as trees that differ in
  letter case.
-/

namespace JoinGraph

open Text (asciiLower lowerAscii)

/-! ## Texts of a tree -/

/-- A column with its names changed. -/
def ColumnRef.mapText (f : String → String) (c : ColumnRef) : ColumnRef :=
  ⟨c.table.map f, f c.column⟩

/-- A condition with its names and its literal changed. -/
def Condition.mapText (f : String → String) (c : Condition) : Condition :=
  ⟨c.left.mapText f, c.operator, f c.literal⟩

namespace Shape.Flat

/-- An entry of the SELECT list with its names changed. -/
def Column.mapText (f : String → String) (c : Column) : Column := ⟨c.ref.mapText f, c.alias?.map f⟩

/-- A table with its names changed. -/
def Table.mapText (f : String → String) (t : Table) : Table := ⟨f t.table, t.alias?.map f⟩

/-- A joined table with its names and those of its sides changed. -/
def Join.mapText (f : String → String) (j : Join) : Join :=
  ⟨f j.table, j.alias?.map f, j.left.map (ColumnRef.mapText f), j.right.map (ColumnRef.mapText f)⟩

/-- A tree with all its texts changed, of which it keeps the number, the places and the operator. -/
def Select.mapText (f : String → String) (s : Select) : Select where
  columns := s.columns.map (Column.mapText f)
  tables := s.tables.map (Table.mapText f)
  joins := s.joins.map (Join.mapText f)
  condition := s.condition.map (Condition.mapText f)

end Shape.Flat

/-! ## Paths -/

theorem ColumnRef.ofSegments?_map (segments : List (List Char)) :
    ofSegments? (segments.map (List.map asciiLower)) =
      (ofSegments? segments).map (mapText lowerAscii) := by
  have hone : ∀ column : List Char, ofSegments? [column] =
      if column.isEmpty then none else some ⟨none, String.ofList column⟩ := fun _ => rfl
  have htwo : ∀ table column : List Char, ofSegments? [table, column] =
      if column.isEmpty then none
      else some ⟨if table.isEmpty then none else some (String.ofList table),
        String.ofList column⟩ :=
    fun _ _ => rfl
  induction segments with
  | nil => rfl
  | cons first rest ih =>
      match rest, ih with
      | [], _ =>
          simp only [List.map_cons, List.map_nil, hone, List.isEmpty_map, Text.ofList_map]
          split <;> rfl
      | [column], _ =>
          simp only [List.map_cons, List.map_nil, htwo, List.isEmpty_map, Text.ofList_map]
          split
          · rfl
          · by_cases htable : first.isEmpty = true <;> simp [htable, mapText]
      | _ :: _ :: _, ih => exact ih

theorem ColumnRef.ofPathChars?_map (path : List Char) :
    ofPathChars? (path.map asciiLower) = (ofPathChars? path).map (mapText lowerAscii) := by
  have hbare : Name.bareChars ∘ List.map asciiLower = List.map asciiLower ∘ Name.bareChars := by
    funext name
    exact Name.bareChars_map name
  rw [ofPathChars?, ofPathChars?, Text.trimChars_map, Text.splitChars_map (by decide), List.map_map,
    hbare, ← List.map_map, ofSegments?_map]

/-- The wildcard is no letter. -/
theorem Text.lowerAscii_eq_star_iff (name : String) : lowerAscii name = "*" ↔ name = "*" := by
  rw [lowerAscii, ← String.toList_inj, String.toList_ofList, ← String.toList_inj]
  exact map_eq_singleton_iff (by decide) name.toList

end JoinGraph

namespace JoinGraph.Pattern

open Text (asciiLower asciiLower_beq asciiLower_eq_iff isAsciiLetter lowerAscii)

/-! ## Names -/

@[simp] theorem isNamePart_asciiLower (c : Char) : isNamePart (asciiLower c) = isNamePart c := by
  simp only [isNamePart, Text.isAlphanumeric_asciiLower,
    asciiLower_beq (by decide : isAsciiLetter '_' = false),
    asciiLower_beq (by decide : isAsciiLetter '$' = false)]

@[simp] theorem isPathPart_asciiLower (c : Char) : isPathPart (asciiLower c) = isPathPart c := by
  simp only [isPathPart, isNamePart_asciiLower, Name.isDelimiter_asciiLower,
    asciiLower_beq (by decide : isAsciiLetter '.' = false),
    asciiLower_beq (by decide : isAsciiLetter '*' = false)]

theorem isPlainName_map (word : List Char) :
    isPlainName (word.map asciiLower) = isPlainName word := by
  simp [isPlainName, Function.comp_def]

theorem isTablePath_map (name : List Char) :
    isTablePath (name.map asciiLower) = isTablePath name := by
  have hdot : isAsciiLetter '.' = false := by decide
  simp [isTablePath, bne, Text.map_beq_some hdot, asciiLower_beq hdot, Function.comp_def]

theorem isColumnPath_map (text : List Char) :
    isColumnPath (text.map asciiLower) = isColumnPath text := by
  have hdot : isAsciiLetter '.' = false := by decide
  simp [isColumnPath, Option.any_map, asciiLower_beq hdot, Function.comp_def]

theorem columnOf?_map (text : List Char) :
    columnOf? (text.map asciiLower) = (columnOf? text).map (ColumnRef.mapText lowerAscii) := by
  rw [columnOf?, columnOf?, isColumnPath_map, ColumnRef.ofPathChars?_map]
  split <;> rfl

/-! ## Columns -/

theorem isAliasText_map (text : List Char) :
    isAliasText (text.map asciiLower) = isAliasText text := by
  cases text with
  | nil => rfl
  | cons c text =>
      have hinside : ∀ {d : Char}, isAsciiLetter d = false →
          (text.map asciiLower).dropLast.contains d = text.dropLast.contains d := by
        intro d hd
        rw [← List.map_dropLast, Bool.eq_iff_iff, List.contains_iff_mem, List.contains_iff_mem]
        simp only [List.mem_map, asciiLower_eq_iff hd, exists_eq_right]
      have hdouble : isAsciiLetter '"' = false := by decide
      have hback : isAsciiLetter '\x60' = false := by decide
      have hopening : isAsciiLetter '[' = false := by decide
      have hclosing : isAsciiLetter ']' = false := by decide
      have hblanks : ((c :: text).map asciiLower).any Text.isBlank =
          (c :: text).any Text.isBlank := by
        simp [Function.comp_def]
      rw [List.map_cons] at hblanks ⊢
      simp only [isAliasText, hblanks, List.isEmpty_cons, List.getLast?_map,
        Text.map_beq_some hdouble,
        Text.map_beq_some hback, Text.map_beq_some hclosing, asciiLower_beq hdouble,
        asciiLower_beq hback, asciiLower_beq hopening, hinside hdouble, hinside hback,
        hinside hclosing]

theorem aliasAfterAs?_map (s : List Char) :
    aliasAfterAs? (s.map asciiLower) = (aliasAfterAs? s).map (List.map asciiLower) := by
  rw [Plain.aliasAfterAs?_eq, Plain.aliasAfterAs?_eq, afterBlanks?_map]
  cases afterBlanks? s with
  | none => rfl
  | some named =>
      simp only [Option.map_some, Option.bind_some, afterWord?_map]
      cases afterWord? "as".toList named with
      | none => rfl
      | some rest =>
          simp only [Option.map_some, Option.bind_some, afterBlanks?_map]
          cases afterBlanks? rest with
          | none => rfl
          | some name =>
              simp only [Option.map_some, Option.bind_some, isAliasText_map]
              split <;> rfl

theorem splitAs?_map (s : List Char) :
    splitAs? (s.map asciiLower) =
      (splitAs? s).map (Prod.map (List.map asciiLower) (List.map asciiLower)) := by
  induction s with
  | nil => rfl
  | cons c s ih =>
      have halias := aliasAfterAs?_map (c :: s)
      rw [List.map_cons] at halias ⊢
      rw [Plain.splitAs?_cons, Plain.splitAs?_cons, halias, ih]
      cases aliasAfterAs? (c :: s) with
      | some name => rfl
      | none => cases splitAs? s <;> rfl

theorem splitAlias_map (item : List Char) :
    splitAlias (item.map asciiLower) =
      Prod.map (List.map asciiLower) (Option.map (List.map asciiLower)) (splitAlias item) := by
  rw [splitAlias, splitAlias, splitAs?_map, Text.words_map]
  cases splitAs? item with
  | some parts => simp
  | none =>
      simp only [Option.map_none]
      rcases Text.words item with _ | ⟨expr, _ | ⟨name, _ | ⟨third, rest⟩⟩⟩
      · rfl
      · rfl
      · simp only [List.map_cons, List.map_nil, isPlainName_map]
        split
        · simp
        · rfl
      · rfl

theorem column?_map (entry : List Char) :
    column? (entry.map asciiLower) =
      (column? entry).map (Shape.Flat.Column.mapText lowerAscii) := by
  have hname : ∀ name : Option (List Char),
      ((name.map (List.map asciiLower)).filter fun n => !n.isEmpty).map String.ofList =
        ((name.filter fun n => !n.isEmpty).map String.ofList).map lowerAscii := by
    intro name
    rcases name with _ | _ | ⟨c, rest⟩
    · rfl
    · rfl
    · exact congrArg some (Text.ofList_map (c :: rest))
  rw [column?, column?, Text.trimChars_map, splitAlias_map]
  obtain ⟨expr, name⟩ := splitAlias (Text.trimChars entry)
  simp only [Prod.map_apply, columnOf?_map, hname]
  cases columnOf? expr with
  | none => rfl
  | some ref =>
      by_cases hstar : ref.column = "*" <;>
        simp [ColumnRef.mapText, Shape.Flat.Column.mapText, hstar, Text.lowerAscii_eq_star_iff]

theorem withoutModifier_map (list : List Char) :
    withoutModifier (list.map asciiLower) = (withoutModifier list).map asciiLower := by
  have hword : ∀ word : String, (afterWord? word.toList ((Text.trimFront list).map asciiLower)).bind
      afterBlanks? = ((afterWord? word.toList (Text.trimFront list)).bind afterBlanks?).map
        (List.map asciiLower) := by
    intro word
    rw [afterWord?_map, bind_afterBlanks?_map]
  rw [withoutModifier, withoutModifier, Text.trimFront_map]
  simp only [List.findSome?_cons, List.findSome?_nil, hword]
  cases (afterWord? "distinct".toList (Text.trimFront list)).bind afterBlanks? with
  | some rest => rfl
  | none => cases (afterWord? "all".toList (Text.trimFront list)).bind afterBlanks? <;> rfl

/-- Entries that are read one by one, each in lower case. -/
theorem filterMap_map_lowered {α : Type} {read : List Char → Option α} {lower : α → α}
    (hread : ∀ entry, read (entry.map asciiLower) = (read entry).map lower)
    (entries : List (List Char)) :
    (entries.map (List.map asciiLower)).filterMap read = (entries.filterMap read).map lower := by
  rw [List.filterMap_map, List.map_filterMap]
  exact List.filterMap_congr fun entry _ => hread entry

theorem columns_map (text : List Char) :
    columns (text.map asciiLower) = (columns text).map (Shape.Flat.Column.mapText lowerAscii) := by
  rw [columns, columns, first?_map (foldsCase_wordAndBlanks "select")]
  cases first? (wordAndBlanks "select") text with
  | none => rfl
  | some select =>
      simp only [Option.map_some, Occurrence.lowered, first?_map (foldsCase_wholeWord "from")]
      cases first? (wholeWord "from") select.after with
      | none => rfl
      | some found =>
          simp only [Option.map_some, Occurrence.lowered, withoutModifier_map,
            splitTop_map (by decide : isAsciiLetter ',' = false)]
          exact filterMap_map_lowered column?_map _

/-! ## Tables -/

theorem lastSegment_map (path : List Char) :
    lastSegment (path.map asciiLower) = (lastSegment path).map asciiLower := by
  rw [lastSegment, lastSegment, Text.splitChars_map (by decide), List.getLast?_map]
  cases (Text.splitChars '.' path).getLast? <;> rfl

theorem aliasAmong?_map (words : List (List Char)) :
    aliasAmong? (words.map (List.map asciiLower)) = (aliasAmong? words).map lowerAscii := by
  have hname : ∀ name? : Option (List Char),
      ((name?.map (List.map asciiLower)).map Name.bareChars).bind
        (fun name => if isPlainName name then some (String.ofList name) else none) =
          ((name?.map Name.bareChars).bind fun name =>
            if isPlainName name then some (String.ofList name) else none).map lowerAscii := by
    intro name?
    cases name? with
    | none => rfl
    | some name =>
        simp only [Option.map_some, Option.bind_some, Name.bareChars_map, isPlainName_map]
        split
        · rw [Text.ofList_map, Option.map_some]
        · rfl
  cases words with
  | nil => rfl
  | cons word rest =>
      have has : Text.equalFold (String.ofList (word.map asciiLower)) "as" =
          Text.equalFold (String.ofList word) "as" := by
        simp [Text.equalFold, Function.comp_def]
      rw [List.map_cons, aliasAmong?, aliasAmong?, has, List.head?_map]
      split
      · exact hname rest.head?
      · exact hname (some word)

theorem table?_map (entry : List Char) :
    table? (entry.map asciiLower) = (table? entry).map (Shape.Flat.Table.mapText lowerAscii) := by
  rw [table?, table?]
  simp only [Text.trimChars_map, List.head?_map,
    Text.map_eq_some_iff (by decide : isAsciiLetter '(' = false), Text.words_map]
  split
  · rfl
  · cases Text.words (Text.trimChars entry) with
    | nil => rfl
    | cons word rest =>
        simp only [List.map_cons, Name.bareChars_map, lastSegment_map, isTablePath_map,
          List.isEmpty_map, aliasAmong?_map]
        split
        · simp [Shape.Flat.Table.mapText, Text.ofList_map]
        · rfl

theorem tables_map (text : List Char) :
    tables (text.map asciiLower) = (tables text).map (Shape.Flat.Table.mapText lowerAscii) := by
  have hends : (either (anyWord clauseEnds) (character ')')).FoldsCase :=
    (foldsCase_anyWord clauseEnds).either (foldsCase_character (by decide))
  rw [tables, tables, occurrences_map (foldsCase_wholeWord "from"), List.flatMap_map,
    List.map_flatMap]
  refine List.flatMap_congr fun found _ => ?_
  simp only [Occurrence.lowered, textBefore_map hends,
    splitTop_map (by decide : isAsciiLetter ',' = false)]
  exact filterMap_map_lowered table?_map _

/-! ## Joins -/

theorem joinSide?_map (side : List Char) :
    joinSide? (side.map asciiLower) = (joinSide? side).map (ColumnRef.mapText lowerAscii) := by
  rw [joinSide?, joinSide?, Text.trimChars_map]
  simp only [List.any_map, Function.comp_def,
    asciiLower_beq (by decide : isAsciiLetter '<' = false),
    asciiLower_beq (by decide : isAsciiLetter '>' = false),
    asciiLower_beq (by decide : isAsciiLetter '!' = false), columnOf?_map]
  split <;> rfl

theorem joinSides_map (condition : List Char) :
    joinSides (condition.map asciiLower) =
      Prod.map (Option.map (ColumnRef.mapText lowerAscii))
        (Option.map (ColumnRef.mapText lowerAscii))
        (joinSides condition) := by
  have hparens : (fun c => !(c == '(' || c == ')')) ∘ asciiLower = fun c =>
      !(c == '(' || c == ')') := by
    funext c
    simp only [Function.comp_apply, asciiLower_beq (by decide : isAsciiLetter '(' = false),
      asciiLower_beq (by decide : isAsciiLetter ')' = false)]
  rw [joinSides, joinSides, List.filter_map, hparens, beforeConjunction_map,
    Text.splitOnce?_map (by decide)]
  cases Text.splitOnce? '='
    (beforeConjunction (condition.filter fun c => !(c == '(' || c == ')'))) with
  | none => rfl
  | some sides => simp [joinSide?_map]

theorem join?_map (found : Occurrence) :
    join? found.lowered = (join? found).map (Shape.Flat.Join.mapText lowerAscii) := by
  rw [join?, join?]
  simp only [Occurrence.lowered, textBefore_map (foldsCase_anyWord clauseEnds),
    first?_map (foldsCase_wholeWord "on")]
  cases first? (wholeWord "on") (textBefore (anyWord clauseEnds) found.after) with
  | none =>
      simp only [Option.map_none, table?_map]
      cases table? (textBefore (anyWord clauseEnds) found.after) <;> rfl
  | some on =>
      simp only [Option.map_some, Occurrence.lowered, joinSides_map, table?_map]
      cases table? on.before <;> rfl

theorem joins_map (text : List Char) :
    joins (text.map asciiLower) = (joins text).map (Shape.Flat.Join.mapText lowerAscii) := by
  rw [joins, joins, occurrences_map (foldsCase_wordAndBlanks "join"), List.filterMap_map,
    List.map_filterMap]
  exact List.filterMap_congr fun found _ => join?_map found

/-! ## Conditions -/

@[simp] theorem isComparisonPart_asciiLower (c : Char) :
    isComparisonPart (asciiLower c) = isComparisonPart c := by
  simp only [isComparisonPart, asciiLower_beq (by decide : isAsciiLetter '<' = false),
    asciiLower_beq (by decide : isAsciiLetter '>' = false),
    asciiLower_beq (by decide : isAsciiLetter '=' = false),
    asciiLower_beq (by decide : isAsciiLetter '!' = false)]

/-- The operator at the front of a text, by its first character and the one behind it. -/
theorem afterComparison?_cons (c : Char) (rest : List Char) :
    afterComparison? (c :: rest) =
      if c = '<' then
        if rest.head? = some '=' then some (.atMost, rest.tail)
        else if rest.head? = some '>' then some (.notEqual, rest.tail)
        else some (.less, rest)
      else if c = '>' then
        if rest.head? = some '=' then some (.atLeast, rest.tail) else some (.greater, rest)
      else if c = '!' then
        if rest.head? = some '=' then some (.notEqual, rest.tail) else none
      else if c = '=' then some (.equal, rest)
      else none := by
  rw [afterComparison?.eq_def]
  split <;> simp_all [List.head?_eq_some_iff]

theorem afterComparison?_map (text : List Char) :
    afterComparison? (text.map asciiLower) =
      (afterComparison? text).map (Prod.map id (List.map asciiLower)) := by
  cases text with
  | nil => rfl
  | cons c rest =>
      have hless : isAsciiLetter '<' = false := by decide
      have hgreater : isAsciiLetter '>' = false := by decide
      have hequal : isAsciiLetter '=' = false := by decide
      have hnot : isAsciiLetter '!' = false := by decide
      simp only [List.map_cons, afterComparison?_cons, List.head?_map, asciiLower_eq_iff hless,
        asciiLower_eq_iff hgreater, asciiLower_eq_iff hequal, asciiLower_eq_iff hnot,
        Text.map_eq_some_iff hequal, Text.map_eq_some_iff hgreater, ← List.map_tail]
      split_ifs <;> rfl

theorem comparison?_map (text : List Char) :
    comparison? (text.map asciiLower) = (comparison? text).map (Condition.mapText lowerAscii) := by
  have hpart : (fun c => !isComparisonPart c) ∘ asciiLower = fun c => !isComparisonPart c := by
    funext c
    simp
  simp only [comparison?, List.takeWhile_map, List.dropWhile_map, hpart, afterComparison?_map,
    Text.trimChars_map, columnOf?_map]
  cases afterComparison? (text.dropWhile fun c => !isComparisonPart c) with
  | none => rfl
  | some found =>
      obtain ⟨operator, right⟩ := found
      simp only [Option.map_some, Prod.map_apply, id_eq, Option.bind_eq_bind, Option.bind_some,
        List.isEmpty_map, List.any_map, Function.comp_def, isComparisonPart_asciiLower,
        Name.unquoteChars_map, Text.ofList_map]
      split
      · rfl
      · cases columnOf? (Text.trimChars (text.takeWhile fun c => !isComparisonPart c)) <;> rfl

theorem withoutOuterParens_map (s : List Char) :
    withoutOuterParens (s.map asciiLower) = (withoutOuterParens s).map asciiLower := by
  have hopening : (fun c => decide (c = '(')) ∘ asciiLower = fun c => decide (c = '(') := by
    funext c
    simp [asciiLower_eq_iff (by decide : isAsciiLetter '(' = false)]
  have hclosing : (fun c => decide (c = ')')) ∘ asciiLower = fun c => decide (c = ')') := by
    funext c
    simp [asciiLower_eq_iff (by decide : isAsciiLetter ')' = false)]
  simp only [withoutOuterParens, List.dropWhile_map, hopening, ← List.map_reverse, hclosing]

theorem condition?_map (text : List Char) :
    condition? (text.map asciiLower) = (condition? text).map (Condition.mapText lowerAscii) := by
  rw [condition?, condition?, first?_map (foldsCase_wholeWord "where")]
  cases first? (wholeWord "where") text with
  | none => rfl
  | some found =>
      simp only [Option.map_some, Option.bind_eq_bind, Option.bind_some, Occurrence.lowered,
        textBefore_map (foldsCase_anyWord conditionEnds), Text.trimChars_map, beforeConjunction_map,
        withoutOuterParens_map, comparison?_map]

/-! ## Statements -/

theorem prepare_map (sql : List Char) :
    prepare (sql.map asciiLower) = (prepare sql).map asciiLower := by
  have hsemicolon : (fun c => decide (c = ';')) ∘ asciiLower = fun c => decide (c = ';') := by
    funext c
    simp [asciiLower_eq_iff (by decide : isAsciiLetter ';' = false)]
  simp only [prepare, withoutComments_map, Text.trimChars_map, ← List.map_reverse,
    List.dropWhile_map, hsemicolon, Text.trimBack_map]

theorem readChars_map (sql : List Char) :
    readChars (sql.map asciiLower) = (readChars sql).mapText lowerAscii := by
  simp only [readChars, prepare_map, columns_map, tables_map, joins_map, condition?_map,
    Shape.Flat.Select.mapText]

end JoinGraph.Pattern

namespace JoinGraph

open Text (lowerAscii)

/--
A statement in lower case is read as the statement itself is, with all texts in lower case.  So
are all texts that only the case of ASCII letters tells apart: they have as many columns, tables
and joins, and the operator of their condition is the same.
-/
theorem read_letterCase (sql other : String) :
    Pattern.read (lowerAscii sql) = (Pattern.read sql).mapText lowerAscii ∧
      (Text.equalFold sql other = true →
        (Pattern.read sql).mapText lowerAscii = (Pattern.read other).mapText lowerAscii ∧
        (Pattern.read sql).columns.length = (Pattern.read other).columns.length ∧
        (Pattern.read sql).tables.length = (Pattern.read other).tables.length ∧
        (Pattern.read sql).joins.length = (Pattern.read other).joins.length ∧
        (Pattern.read sql).condition.map Condition.operator =
          (Pattern.read other).condition.map Condition.operator) := by
  have hlower : ∀ sql, Pattern.read (lowerAscii sql) = (Pattern.read sql).mapText lowerAscii := by
    intro sql
    rw [Pattern.read, lowerAscii, String.toList_ofList, Pattern.readChars_map]
    rfl
  refine ⟨hlower sql, fun hequal => ?_⟩
  rw [Text.equalFold, beq_iff_eq] at hequal
  have hsame : (Pattern.read sql).mapText lowerAscii = (Pattern.read other).mapText lowerAscii := by
    rw [← hlower, ← hlower, lowerAscii, lowerAscii, hequal]
  refine ⟨hsame, ?_, ?_, ?_, ?_⟩
  · simpa [Shape.Flat.Select.mapText] using congrArg (·.columns.length) hsame
  · simpa [Shape.Flat.Select.mapText] using congrArg (·.tables.length) hsame
  · simpa [Shape.Flat.Select.mapText] using congrArg (·.joins.length) hsame
  · simpa [Shape.Flat.Select.mapText, Function.comp_def, Condition.mapText] using
      congrArg (·.condition.map Condition.operator) hsame

/-- Two spellings of one statement, with an alias, a delimited name, an accented letter and a
literal. -/
theorem read_letterCase_shouted :
    let sql :=
      "select U.[Id] as Clé from Users u join Orders O on u.id = O.uid where Name <> \"Ann\""
    let other :=
      "SELECT u.[ID] AS clé FROM users U JOIN orders o ON U.ID = o.UID WHERE name <> \"ANN\""
    Text.equalFold sql other = true ∧
      Pattern.read (lowerAscii sql) = (Pattern.read sql).mapText lowerAscii ∧
      (Pattern.read sql).mapText lowerAscii = (Pattern.read other).mapText lowerAscii ∧
      (Pattern.read sql).columns.length = (Pattern.read other).columns.length ∧
      (Pattern.read sql).tables.length = (Pattern.read other).tables.length ∧
      (Pattern.read sql).joins.length = (Pattern.read other).joins.length ∧
      (Pattern.read sql).condition.map Condition.operator =
        (Pattern.read other).condition.map Condition.operator := by
  intro sql other
  have hequal : Text.equalFold sql other = true := by decide +kernel
  have hread := read_letterCase sql other
  exact ⟨hequal, hread.1, hread.2 hequal⟩

end JoinGraph
