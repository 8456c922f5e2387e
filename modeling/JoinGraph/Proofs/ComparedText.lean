import JoinGraph.Proofs.Excerpts
import JoinGraph.Proofs.HiddenText
import JoinGraph.Proofs.PlainClauses
import JoinGraph.Proofs.Unquote

/-!
# What a column is compared with

The scan for the end of a condition passes quoted texts and the arguments of calls.  The cuts that
follow it do not look at quotes and parentheses: the condition ends at the first conjunction
between blanks, it loses all parentheses that close at its back, and it is no comparison if a
second operator stands in it.  So a quoted text is read as it stands only if it has no conjunction
and no operator in it, and a call never is, since its last parenthesis goes.

## Main results

* `Layout.condition?_operand` — what is read of a comparison, whatever the column is compared with.
* `Operand.compared_eq_iff` — which operands are read as they stand.
* `read_comparison` — both, for whole statements.
-/

namespace JoinGraph.Plain

open Text (isBlank isWordPart)
open Pattern (startsWord)

/-! ## Operands -/

/-- A call of a function that has not the name of a clause.  Its arguments are any text in which all
parentheses and quotes are closed and no comment stands. -/
structure Call where
  name : String
  arguments : String
  parts : name.toList.all isIdentifierPart = true := by decide
  start : name.toList.head?.any (fun c => !Text.isAsciiDigit c) = true := by decide
  free : Pattern.conditionEnds.any (Text.equalFold · name) = false := by decide
  balanced : Pattern.Balanced arguments.toList := by decide
  uncommented : Pattern.withoutComments (arguments.toList ++ [')']) =
    arguments.toList ++ [')'] := by
    decide +kernel

/-- What a column is compared with: a quoted text, or a call. -/
inductive Operand where
  | quoted (text : String) (unquoted : '\'' ∉ text.toList)
  | call (call : Call)

namespace Operand

/-- The characters of an operand. -/
def chars : Operand → List Char
  | quoted text _ => '\'' :: (text.toList ++ ['\''])
  | call c => c.name.toList ++ '(' :: (c.arguments.toList ++ [')'])

/-- The text of an operand. -/
def text (r : Operand) : String := String.ofList r.chars

/-- What an operand says: a quoted text without its quotes, and a call as it stands. -/
def literal : Operand → String
  | quoted text _ => text
  | call c => text (call c)

/-- What is kept of an operand: the text before the first conjunction, without closing parentheses
at its back. -/
def kept (r : Operand) : List Char :=
  (Text.trimBack (Pattern.beforeConjunction r.chars)).rdropWhile (· = ')')

/-- What is read of a comparison with an operand. -/
def compared (l : ColumnName) (o : Comparison) (r : Operand) : Option Condition :=
  if r.kept.any Pattern.isComparisonPart then none
  else some ⟨l.ref, o, String.ofList (Name.unquoteChars r.kept)⟩

/-- Whether an operand is read as it stands: a quoted text without operators and conjunctions. -/
def ReadWhole : Operand → Prop
  | quoted text _ => text.toList.any Pattern.isComparisonPart = false ∧
      ∀ word ∈ conjunctions, standsBetweenBlanks word.toList text.toList = false
  | call _ => False

instance (r : Operand) : Decidable r.ReadWhole :=
  match r with
  | quoted _ _ => inferInstanceAs (Decidable (_ ∧ _))
  | call _ => inferInstanceAs (Decidable False)

end Operand

namespace Call

variable (c : Call)

theorem part {x : Char} (h : x ∈ c.name.toList) : isIdentifierPart x = true :=
  List.all_eq_true.1 c.parts x h

theorem name_ne_nil : c.name.toList ≠ [] := by
  intro h
  have hstart := c.start
  rw [h] at hstart
  simp at hstart

/-- The name of a call ends no condition. -/
theorem not_conditionEnd : Pattern.isOneOf Pattern.conditionEnds c.name.toList = false :=
  (isOneOf_eq_any_equalFold (by decide +kernel) fun _ hx => c.part hx).trans c.free

end Call

namespace Operand

variable (r : Operand)

/-! ### Ends -/

/-- An operand starts with a name that may be empty, and a quote or a parenthesis behind it. -/
theorem opening : ∃ name c rest, r.chars = name ++ c :: rest ∧ IsOpening c ∧
    ∀ x ∈ name, isIdentifierPart x = true := by
  cases r with
  | quoted text _ => exact ⟨[], '\'', text.toList ++ ['\''], rfl, .inl rfl, by simp⟩
  | call c =>
      exact ⟨c.name.toList, '(', c.arguments.toList ++ [')'], rfl, .inr rfl, fun x => c.part⟩

/-- An operand ends with a quote or a parenthesis. -/
theorem closing : ∃ before c, r.chars = before ++ [c] ∧ (c = '\'' ∨ c = ')') := by
  cases r with
  | quoted text _ => exact ⟨'\'' :: text.toList, '\'', rfl, .inl rfl⟩
  | call c => exact ⟨c.name.toList ++ '(' :: c.arguments.toList, ')', by simp [chars], .inr rfl⟩

/-- Behind something that is no blank an operand is trimmed at the front only. -/
theorem trimChars_append {s : List Char} (hs : Text.trimFront s ≠ []) :
    Text.trimChars (s ++ r.chars) = Text.trimFront s ++ r.chars := by
  obtain ⟨before, c, hchars, hc⟩ := r.closing
  have hblank : isBlank c = false := by rcases hc with rfl | rfl <;> decide
  have hfront : Text.trimFront (s ++ r.chars) = Text.trimFront s ++ r.chars := by
    have hne : (s.dropWhile isBlank).isEmpty = false := List.isEmpty_eq_false_iff.2 hs
    rw [Text.trimFront, List.dropWhile_append, hne]
    rfl
  rw [Text.trimChars, hfront, hchars, ← List.append_assoc, Text.trimBack_append hblank]
  rfl

/-! ### Scans -/

/-- No comment starts in an operand. -/
theorem withoutCommentsFrom_chars : Pattern.withoutCommentsFrom none r.chars = r.chars := by
  cases r with
  | quoted text h =>
      have hfree : Pattern.Free [] [] (chars (quoted text h)) := .quoted (by decide) h .nil
      exact Pattern.withoutComments_free hfree
  | call c =>
      have hword : ∀ x ∈ c.name.toList, isWordPart x = true := fun x hx =>
        (identifierPart_of_isIdentifierPart (c.part hx)).word
      have hopen := Pattern.withoutCommentsFrom_cons (c := '(') (by decide) (by decide)
        (c.arguments.toList ++ [')'])
      have hinside : Pattern.withoutCommentsFrom none (c.arguments.toList ++ [')']) =
          c.arguments.toList ++ [')'] := c.uncommented
      rw [chars, Pattern.withoutCommentsFrom_word hword, hopen]
      exact congrArg (c.name.toList ++ '(' :: ·) hinside

/-- No condition ends in an operand. -/
theorem occurrencesFrom_conditionEnds {passed : List Char} (h : startsWord passed.head? = true) :
    Pattern.occurrencesFrom (Pattern.anyWord Pattern.conditionEnds) .top passed r.chars = [] := by
  have hm : (Pattern.anyWord Pattern.conditionEnds).Finds Pattern.conditionEnds some :=
    Pattern.finds_anyWord (by decide)
  cases r with
  | quoted text hquote =>
      have hfree : Pattern.Free Pattern.conditionEnds [] (chars (quoted text hquote)) :=
        .quoted (by decide) hquote .nil
      rw [← List.append_nil (chars (quoted text hquote)),
        Pattern.occurrencesFrom_free hm hfree (.inl h) (.inr rfl), Pattern.occurrencesFrom]
  | call c =>
      have hword : ∀ x ∈ c.name.toList, isWordPart x = true := fun x hx =>
        (identifierPart_of_isIdentifierPart (c.part hx)).word
      have hopen : ∀ before rest,
          Pattern.anyWord Pattern.conditionEnds before ('(' :: rest) = none := fun before rest =>
        hm.sign before '(' rest (by decide) (by decide)
      have hhidden := Pattern.Hidden.nested (n := .top) rfl c.balanced
      rw [chars, Pattern.occurrencesFrom_word hm c.name_ne_nil hword h rfl, c.not_conditionEnd]
      simp only [Bool.false_eq_true, if_false, Option.toList_none, List.nil_append,
        Pattern.occurrencesFrom, hopen, ite_self]
      rw [Pattern.occurrencesFrom_below hhidden.inside, Pattern.occurrencesFrom]

/-! ### What is kept -/

/-- No conjunction reaches into the name that an operand starts with. -/
theorem beforeConjunction_append_name {s name : List Char} (hs : Pattern.beforeConjunction s = s)
    (hname : ∀ x ∈ name, isIdentifierPart x = true) :
    Pattern.beforeConjunction (s ++ name) = s ++ name := by
  have hblank : ∀ x ∈ name, isBlank x = false := fun x hx =>
    (plainPart_of_isTokenPart (by simp [isTokenPart, hname x hx])).blank
  refine beforeConjunction_eq_self_iff.2 fun word hmem => ?_
  rw [standsBetweenBlanks_append_of_no_blank hblank, beforeConjunction_eq_self_iff.1 hs word hmem]

/-- A text without conjunctions stays in front of an operand. -/
theorem beforeConjunction_append {s : List Char} (hs : Pattern.beforeConjunction s = s) :
    Pattern.beforeConjunction (s ++ r.chars) = s ++ Pattern.beforeConjunction r.chars := by
  obtain ⟨name, c, rest, hchars, hc, hname⟩ := r.opening
  have hfront : Pattern.beforeConjunction name = name :=
    beforeConjunction_append_name (s := []) rfl hname
  rw [hchars, ← List.append_assoc, beforeConjunction_opening hc,
    if_pos (beforeConjunction_append_name hs hname), beforeConjunction_opening hc, if_pos hfront,
    List.append_assoc]

/-- The beginning of an operand is kept, and so is all that stands before it. -/
theorem kept_append : ∃ name c rest, r.kept = name ++ c :: rest ∧ IsOpening c ∧
    (∀ x ∈ name, isIdentifierPart x = true) ∧
    ∀ s, (Text.trimBack (s ++ Pattern.beforeConjunction r.chars)).rdropWhile (· = ')') =
      s ++ r.kept := by
  obtain ⟨name, c, rest, hchars, hc, hname⟩ := r.opening
  have hfront : Pattern.beforeConjunction name = name :=
    beforeConjunction_append_name (s := []) rfl hname
  have hdrop : ∀ s, (Text.trimBack (s ++ Pattern.beforeConjunction r.chars)).rdropWhile (· = ')') =
      s ++ (name ++ c ::
        (Text.trimBack (Pattern.beforeConjunction rest)).rdropWhile (· = ')')) := by
    intro s
    rw [hchars, beforeConjunction_opening hc, if_pos hfront, ← List.append_assoc,
      Text.trimBack_append hc.not_blank, Text.rdropWhile_append (by simp [hc.ne_paren]),
      List.append_assoc]
  have hkept : r.kept = name ++ c :: _ := hdrop []
  exact ⟨name, c, _, hkept, hc, hname, fun s => by rw [hdrop, hkept]⟩

end Operand

/-! ## Reading -/

section Reading

variable {l : ColumnName} {o : Comparison} {r : Operand} {text : List Char}

/-- A comparison is read from its column, its operator and what is kept of its operand. -/
theorem Layout.comparison?_kept (h : Layout [.column l, .operator o] text) :
    Pattern.comparison? (text ++ r.kept) = r.compared l o := by
  have hsplit : Layout ([.column l] ++ .operator o :: []) text := h
  obtain ⟨before, s, gap, rfl, hbefore, hs, hafter, -, -⟩ := hsplit.split
  have hgap : ∀ c ∈ gap, isBlank c = true := hafter.blank_nil
  obtain ⟨htake, hdrop⟩ := hbefore.span_operator hs (gap ++ r.kept)
  obtain ⟨name, c, rest, hkept, hc, hname, -⟩ := r.kept_append
  have hhead : ∀ x ∈ (gap ++ r.kept).head?, Pattern.isComparisonPart x = false := by
    intro x hx
    cases gap with
    | cons b gap =>
        obtain rfl : b = x := by simpa using hx
        exact isComparisonPart_of_isBlank (hgap b List.mem_cons_self)
    | nil =>
        cases name with
        | nil =>
            obtain rfl : c = x := by simpa [hkept] using hx
            exact hc.not_comparison
        | cons n name =>
            obtain rfl : n = x := by simpa [hkept] using hx
            exact (plainPart_of_isTokenPart (by simp [isTokenPart, hname n])).comparison
  have hempty : (gap ++ r.kept).isEmpty = false := by simp [hkept]
  have hany : (gap ++ r.kept).any Pattern.isComparisonPart =
      r.kept.any Pattern.isComparisonPart := by
    have hnone : gap.any Pattern.isComparisonPart = false :=
      List.any_eq_false.2 fun x hx => by simp [isComparisonPart_of_isBlank (hgap x hx)]
    rw [List.any_append, hnone, Bool.false_or]
  have hunquote : Name.unquoteChars (gap ++ r.kept) = Name.unquoteChars r.kept := by
    rw [Name.unquoteChars, Text.trimChars, Text.trimFront_blanks_append hgap]
    rfl
  rw [List.append_assoc, List.append_assoc, Pattern.comparison?]
  simp only [htake, hdrop, hs.afterComparison? hhead, Option.bind_eq_bind,
    Option.bind_some, hempty, hany, Bool.false_or, hbefore.spelled.columnOf?, hunquote]
  rfl

/-- Behind an operator a word may start. -/
theorem Layout.startsWord_last (pre : List Token) {t : Token} (h : Layout (pre ++ [t]) text)
    (ht : t.isWord = false) : startsWord text.getLast? = true := by
  obtain ⟨before, s, gap, rfl, -, hs, hafter, -, -⟩ := h.split
  rw [Pattern.startsWord_append before (by simp [hs.ne_nil])]
  cases gap with
  | nil => simpa using hs.startsWord_last ht
  | cons b gap =>
      rw [Pattern.startsWord_append s (List.cons_ne_nil b gap)]
      exact startsWord_of_blanks hafter.blank_nil

theorem Layout.trimFront_ne_nil {t : Token} {ts : List Token} (h : Layout (t :: ts) text) :
    Text.trimFront text ≠ [] := by
  obtain ⟨s, rest, htrim, hs, -, -⟩ := h.trimFront_cons
  simp [htrim, hs.ne_nil]

/-- The condition behind `where` is read to the end of its operand. -/
theorem Layout.condition?_behind (h : Layout [.column l, .operator o] text) :
    Pattern.comparison? (Pattern.withoutOuterParens (Text.trimChars (Pattern.beforeConjunction
      (Text.trimChars (Pattern.textBefore (Pattern.anyWord Pattern.conditionEnds)
        (text ++ r.chars)))))) =
        r.compared l o := by
  have hm : (Pattern.anyWord Pattern.conditionEnds).Finds Pattern.conditionEnds some :=
    Pattern.finds_anyWord (by decide)
  have hfree : Pattern.Free Pattern.conditionEnds [] text :=
    h.free (by decide) (by simp) (by simp) (by simp)
  have hlast : startsWord (text.reverse ++ []).head? = true := by
    simpa using Layout.startsWord_last [.column l] h rfl
  have hend : Pattern.textBefore (Pattern.anyWord Pattern.conditionEnds) (text ++ r.chars) =
      text ++ r.chars := by
    rw [Pattern.textBefore, Pattern.first?_eq_head?, Pattern.occurrences,
      Pattern.occurrencesFrom_free hm hfree (.inl rfl) (.inl hlast),
      r.occurrencesFrom_conditionEnds hlast]
    rfl
  have hfront := h.trimFront
  rw [hend, r.trimChars_append h.trimFront_ne_nil,
    r.beforeConjunction_append hfront.beforeConjunction]
  -- The text starts with the column, so nothing is dropped at its front.
  obtain ⟨c, rest, htrim, hc⟩ : ∃ c rest, Text.trimFront text = c :: rest ∧ isEdge c = true := by
    obtain ⟨s, rest, htrim, hs, -, -⟩ := h.trimFront_cons
    obtain ⟨c, s, rfl, hc⟩ := hs.head_edge
    exact ⟨c, s ++ rest, htrim, hc⟩
  obtain ⟨-, -, -, -, -, -, hkept⟩ := r.kept_append
  have hdrop : Pattern.withoutOuterParens (Text.trimChars (Text.trimFront text ++
      Pattern.beforeConjunction r.chars)) = Text.trimFront text ++ r.kept := by
    have hback : Text.trimBack (c :: (rest ++ Pattern.beforeConjunction r.chars)) =
        c :: Text.trimBack (rest ++ Pattern.beforeConjunction r.chars) :=
      Text.trimBack_append (not_blank_of_isEdge hc) [] _
    rw [← hkept, htrim, Text.trimChars, List.cons_append,
      Text.trimFront_cons (not_blank_of_isEdge hc),
      hback, Pattern.withoutOuterParens, dropWhile_eq_self_of_head (by simp [ne_of_isEdge hc])]
    rfl
  rw [hdrop, hfront.comparison?_kept]

/-- A comparison is read up to its end, whatever the column is compared with. -/
theorem Layout.condition?_operand {d : Draft}
    (h : Layout (d.beforeFilter ++ [.keyword .filter, .column l, .operator o]) text) :
    Pattern.condition? (text ++ r.chars) = r.compared l o := by
  have hwhere := Pattern.finds_wholeWord (by decide : Pattern.IsKeyword "where")
  obtain ⟨before, s, after, rfl, hbefore, hs, hafter, hends, hborder⟩ := h.split
  have hends : endsToken (after ++ r.chars) = true := by
    have hne : after ≠ [] := by
      rintro rfl
      exact hafter.trimFront_ne_nil rfl
    obtain ⟨c, after, rfl⟩ := List.exists_cons_of_ne_nil hne
    exact hends rfl
  have hfound : Pattern.first? (Pattern.wholeWord "where") (before ++ (s ++ (after ++ r.chars))) =
      some ⟨before, after ++ r.chars⟩ := by
    rw [Pattern.first?_eq_head?, Pattern.occurrences,
      hbefore.occurrencesFrom_append_keyword hs hends
      hborder hwhere (by decide) text_beforeFilter (by decide) (.inl rfl)]
    rfl
  rw [List.append_assoc, List.append_assoc, Pattern.condition?, hfound]
  simp only [Option.bind_eq_bind, Option.bind_some]
  exact hafter.condition?_behind

/-- Nothing is taken off a text that ends with an operand, but blanks at its front. -/
theorem Layout.prepare_operand {t : Token} {ts : List Token} (h : Layout (t :: ts) text) :
    Pattern.prepare (text ++ r.chars) = Text.trimFront text ++ r.chars := by
  have hfree : Pattern.Free [] [] text := h.free (List.nil_subset _) (by simp) (by simp) (by simp)
  have hcomments : Pattern.withoutComments (text ++ r.chars) = text ++ r.chars := by
    rw [Pattern.withoutComments, Pattern.withoutCommentsFrom_free hfree,
      r.withoutCommentsFrom_chars]
  obtain ⟨before, c, hchars, hc⟩ := r.closing
  have hsemicolon : c ≠ ';' := by rcases hc with rfl | rfl <;> decide
  have hblank : isBlank c = false := by rcases hc with rfl | rfl <;> decide
  rw [Pattern.prepare, hcomments, r.trimChars_append h.trimFront_ne_nil, hchars,
    ← List.append_assoc]
  simp [hsemicolon, hblank, Text.trimBack]

theorem Layout.read_condition {d : Draft} {front : String}
    (h : Layout (d.beforeFilter ++ [.keyword .filter, .column l, .operator o]) front.toList) :
    (Pattern.read (front ++ r.text)).condition = r.compared l o := by
  have hchars : (front ++ r.text).toList = front.toList ++ r.chars := by
    rw [String.toList_append, Operand.text, String.toList_ofList]
  have hprepare : Pattern.prepare (front.toList ++ r.chars) =
      Text.trimFront front.toList ++ r.chars := h.prepare_operand
  rw [Pattern.read, hchars, Pattern.readChars, hprepare]
  exact h.trimFront.condition?_operand

end Reading

/-! ## What is read as it stands -/

namespace Operand

variable (r : Operand)

theorem kept_isPrefix : r.kept <+: r.chars := by
  have htrim := (Text.trimBack_isPrefix _).trans (Pattern.beforeConjunction_isPrefix r.chars)
  exact (List.rdropWhile_prefix _ _).trans htrim

/-- Of a call not all is kept: its last parenthesis goes. -/
theorem kept_call_ne (c : Call) : (call c).kept ≠ (call c).chars := by
  intro h
  have hchars : (call c).chars = (c.name.toList ++ '(' :: c.arguments.toList) ++ [')'] := by
    simp [chars]
  have hne : (call c).kept ≠ [] := by simp [h, hchars]
  have hlast : (call c).kept.getLast hne = ')' := by simp [h, hchars]
  exact List.rdropWhile_last_not _ _ hne (by simpa [kept] using hlast)

/-- A quoted text is kept up to the first conjunction in it. -/
theorem kept_quoted {text : String} (h : '\'' ∉ text.toList) :
    (quoted text h).kept =
      if Pattern.beforeConjunction text.toList = text.toList then (quoted text h).chars
      else '\'' :: (Text.trimBack (Pattern.beforeConjunction text.toList)).rdropWhile
        (· = ')') := by
  have hopen : Pattern.beforeConjunction (quoted text h).chars =
      '\'' :: Pattern.beforeConjunction (text.toList ++ ['\'']) :=
    (beforeConjunction_opening (.inl rfl) [] _).trans (if_pos rfl)
  have hback : ∀ {p : Char → Bool}, p '\'' = false → ∀ s : List Char,
      ('\'' :: s).rdropWhile p = '\'' :: s.rdropWhile p :=
        fun hp s => Text.rdropWhile_append hp [] s
  have htrim : ∀ s : List Char, Text.trimBack ('\'' :: s) = '\'' :: Text.trimBack s :=
    hback (by decide)
  rw [kept, hopen, beforeConjunction_opening (.inl rfl), htrim, hback (by decide)]
  split
  · have hclose : Text.trimBack (text.toList ++ ['\'']) = text.toList ++ ['\''] :=
      Text.trimBack_append (by decide) _ []
    have hparen : (text.toList ++ ['\'']).rdropWhile (· = ')') = text.toList ++ ['\''] :=
      Text.rdropWhile_append (by decide) _ []
    rw [Pattern.beforeConjunction, hclose, hparen]
    rfl
  · rfl

/-- A quote that is not closed stays. -/
theorem mem_unquoteChars {s : List Char} (h : '\'' ∉ s) : '\'' ∈ Name.unquoteChars ('\'' :: s) := by
  have htrim : Text.trimChars ('\'' :: s) = '\'' :: Text.trimBack s := by
    rw [Text.trimChars, Text.trimFront_cons (by decide)]
    exact Text.trimBack_append (by decide) [] s
  rcases (Name.unquoteChars_eq_iff ('\'' :: s) _).1 rfl with ⟨quote, -, hquoted⟩ | ⟨hbare, -⟩
  · obtain ⟨rfl, hback⟩ := List.cons.inj (htrim.symm.trans hquoted)
    exact absurd ((Text.trimBack_isPrefix s).subset (by simp [hback])) h
  · rw [← hbare, htrim]
    exact List.mem_cons_self

/-- Only quoted texts without operators and conjunctions are read as they stand. -/
theorem compared_eq_iff (l : ColumnName) (o : Comparison) :
    r.compared l o = some ⟨l.ref, o, r.literal⟩ ↔ r.ReadWhole := by
  have hread : r.compared l o = some ⟨l.ref, o, r.literal⟩ ↔
      r.kept.any Pattern.isComparisonPart = false ∧
        Name.unquoteChars r.kept = r.literal.toList := by
    rw [compared]
    cases r.kept.any Pattern.isComparisonPart with
    | true => simp
    | false => simp [← String.toList_inj]
  rw [hread]
  cases r with
  | call c =>
      refine iff_of_false (fun h => ?_) id
      have hlength := (kept_isPrefix (call c)).length_le
      have hshorter : (call c).kept.length ≠ (call c).chars.length := fun heq =>
        kept_call_ne c ((kept_isPrefix (call c)).eq_of_length heq)
      have hunquoted := Name.length_unquoteChars_le (call c).kept
      have hliteral : (call c).literal.toList = (call c).chars := String.toList_ofList
      rw [h.2, hliteral] at hunquoted
      omega
  | quoted text hquote =>
      rw [kept_quoted, ReadWhole, ← beforeConjunction_eq_self_iff]
      by_cases hwhole : Pattern.beforeConjunction text.toList = text.toList
      · have htrim : Text.trimChars (quoted text hquote).chars = (quoted text hquote).chars := by
          rw [chars, Text.trimChars, Text.trimFront_cons (by decide)]
          exact Text.trimBack_append (by decide) ('\'' :: text.toList) []
        have hunquote : Name.unquoteChars (quoted text hquote).chars = text.toList := by
          rw [Name.unquoteChars, htrim]
          simp [chars, Name.unwrapQuote?]
        have hany : (quoted text hquote).chars.any Pattern.isComparisonPart =
            text.toList.any Pattern.isComparisonPart := by
          have hsign : Pattern.isComparisonPart '\'' = false := rfl
          simp [chars, hsign]
        simp [hwhole, hany, hunquote, literal]
      · rw [if_neg hwhole]
        refine iff_of_false (fun h => ?_) fun h => hwhole h.2
        have hfront :
            (Text.trimBack (Pattern.beforeConjunction text.toList)).rdropWhile (· = ')') <+:
              text.toList :=
          ((List.rdropWhile_prefix _ _).trans (Text.trimBack_isPrefix _)).trans
            (Pattern.beforeConjunction_isPrefix _)
        have hmem := mem_unquoteChars fun hmem => hquote (hfront.subset hmem)
        rw [h.2] at hmem
        exact hquote hmem

end Operand

/-! ## Operands of each kind -/

/-- A draft of one column and one table. -/
def columnDraft : Draft where
  columns := [⟨⟨some (.mk "p"), .mk "size"⟩, none⟩]
  first := ⟨.mk "p", none⟩
  others := []
  joins := []
  filter? := none

/-- The text of a statement up to its operand. -/
def comparisonFront : String := "select p.size from p where p.colour = "

theorem layout_comparisonFront :
    Layout (columnDraft.beforeFilter ++
        [.keyword .filter, .column ⟨some (.mk "p"), .mk "colour"⟩, .operator .equal])
      comparisonFront.toList := by
  have htext : comparisonFront.toList = spaced (columnDraft.beforeFilter ++
      [.keyword .filter, .column ⟨some (.mk "p"), .mk "colour"⟩, .operator .equal]) := by
        decide +kernel
  rw [htext]
  exact layout_spaced _

/-- A call with a conjunction, an operator and parentheses in its arguments. -/
def concatCall : Operand := .call { name := "concat", arguments := "'salt and p=', (b)" }

end JoinGraph.Plain

namespace JoinGraph

open Plain (ColumnName Draft Layout Operand)

/--
A column that is compared with a quoted text or a call is read with its operator and with what is
kept of the operand: the text before the first conjunction between blanks, without parentheses at
its back.  Nothing is read if an operator stands in that.  So the operand is read as it stands
exactly if it is a quoted text without operators and conjunctions.
-/
theorem read_comparison (d : Draft) (l : ColumnName) (o : Comparison) (r : Operand) {front : String}
    (h : Layout (d.beforeFilter ++ [.keyword .filter, .column l, .operator o]) front.toList) :
    (Pattern.read (front ++ r.text)).condition =
        (if r.kept.any Pattern.isComparisonPart then none
          else some ⟨l.ref, o, String.ofList (Name.unquoteChars r.kept)⟩) ∧
      ((Pattern.read (front ++ r.text)).condition = some ⟨l.ref, o, r.literal⟩ ↔ r.ReadWhole) := by
  have hread : (Pattern.read (front ++ r.text)).condition = r.compared l o := h.read_condition
  exact ⟨hread, by rw [hread, r.compared_eq_iff]⟩

/-- Of a call with a conjunction and an operator in its arguments, the part before them is read. -/
theorem read_comparison_called :
    Layout (Plain.columnDraft.beforeFilter ++
        [.keyword .filter, .column ⟨some (.mk "p"), .mk "colour"⟩, .operator .equal])
      Plain.comparisonFront.toList ∧
    Plain.concatCall.text = "concat('salt and p=', (b))" ∧
    (Pattern.read (Plain.comparisonFront ++ Plain.concatCall.text)).condition =
      some ⟨⟨some "p", "colour"⟩, .equal, "concat('salt"⟩ := by
  have h := read_comparison Plain.columnDraft ⟨some (.mk "p"), .mk "colour"⟩ .equal Plain.concatCall
    Plain.layout_comparisonFront
  exact ⟨Plain.layout_comparisonFront, by decide +kernel, h.1.trans (by decide +kernel)⟩

/-- Words, operators and parentheses in what a column is compared with split it, drop it and cut
it. -/
theorem read_comparison_cut :
    (Pattern.read "SELECT t.c FROM t WHERE t.a = 'black and white'").condition =
        some ⟨⟨some "t", "a"⟩, .equal, "'black"⟩ ∧
      (Pattern.read "SELECT t.c FROM t WHERE t.a = 'a=b'").condition = none ∧
      (Pattern.read "SELECT t.c FROM t WHERE t.a = lower('x')").condition =
        some ⟨⟨some "t", "a"⟩, .equal, "lower('x'"⟩ := by
  refine ⟨?_, ?_, ?_⟩ <;> decide +kernel

end JoinGraph
