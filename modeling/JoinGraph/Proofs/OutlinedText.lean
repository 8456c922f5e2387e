import JoinGraph.Proofs.ConditionTrees
import JoinGraph.Proofs.PlainOutline
import JoinGraph.Proofs.Unquote

/-!
# Texts in outlines

The grammar takes a text out of its quotes and puts it into the outline as it is.  A condition is
read off an outline as off any tree, whose literals may still have their quotes, so the text is
trimmed and loses a pair of quotes once more.  It comes through if it has no blanks and no pair of
quotes around it.

This is so for texts in plain quotes, single or double ones.  In an outline, a text in any other
form is its spelling: what is read of it has a prefix or further quotes, and never is the text.

## Main results

* `Sql.Expr.comparison?_leading` — an outline is searched down to the leading comparison.
* `Sql.StringForm.length_lt_write` — a text in another form is longer where it is written.
* `condition_of_text` — what is read of a comparison with a text, and which texts come through.
-/

namespace JoinGraph

namespace Sql

/-! ## The leading comparison -/

namespace Expr

/-- The expression in any number of parentheses. -/
def stripped : Expr → Expr
  | nested inner => inner.stripped
  | e => e

/-- The expression that is reached through parentheses and by going left through conjunctions and
disjunctions. -/
def leading : Expr → Expr
  | nested inner => inner.leading
  | binary operator left right =>
    if Shape.Grammar.Expr.joinsBy ["AND", "OR"] Shape.Grammar.Expr.binaryKind (some operator) then
      left.leading
    else binary operator left right
  | e => e

/-- Parentheses leave no trace in an outline. -/
theorem outline_stripped (e : Expr) : e.stripped.outline = e.outline := by
  induction e with
  | nested inner ih => exact ih
  | _ => rfl

/-- The search comes to the leading comparison. -/
theorem comparison?_leading (e : Expr) : e.leading.outline.comparison? = e.outline.comparison? := by
  induction e with
  | nested inner ih => exact ih
  | binary operator left right ih _ =>
      rw [leading]
      split
      · next hjoins =>
          rw [ih, outline, Shape.Grammar.Expr.binary, Shape.Grammar.Expr.comparison?_node,
            if_pos hjoins, Option.bind_some]
      · rfl
  | _ => rfl

/-- A comparison gives a condition if its left side is a column and its right side has a text. -/
theorem comparison?_binary {sign : String} {operator : Comparison}
    (hsign : Comparison.read? sign = some operator) (left right : Expr) :
    (binary sign left right).outline.comparison? = left.outline.ref?.bind fun ref =>
      right.outline.comparedText?.map fun text => ⟨ref, operator, text⟩ := by
  rw [outline, Shape.Grammar.Expr.binary, Shape.Grammar.Expr.comparison?_node, if_neg, if_pos rfl]
  · simp only [Option.bind_some, hsign, Option.map_eq_bind]
    rfl
  · intro hjoins
    rw [read?_eq_none_of_joinsBy hjoins] at hsign
    cases hsign

end Expr

/-! ## Texts in their forms -/

namespace StringForm

/-- The text is in single or double quotes, and nothing else. -/
def IsPlain (form : StringForm) : Prop := form = single ∨ form = double

instance (form : StringForm) : Decidable form.IsPlain := inferInstanceAs (Decidable (_ ∨ _))

/-- What an outline has of a text: the text itself in plain quotes, and the spelling of any
other. -/
def carried (form : StringForm) (text : String) : String :=
  if form.IsPlain then text else form.write text

theorem comparedText?_outline (form : StringForm) (text : String) :
    (Literal.string form text).outline.comparedText? = some (Name.unquote (form.carried text)) := by
  cases form <;> rfl

private theorem length_le_length_flatMap {f : Char → List Char} (h : ∀ c, f c ≠ [])
    (s : List Char) :
    s.length ≤ (s.flatMap f).length := by
  induction s with
  | nil => exact le_rfl
  | cons c s ih =>
      have hc := List.length_pos_iff.2 (h c)
      rw [List.flatMap_cons, List.length_append, List.length_cons]
      omega

private theorem length_le_escapedText (text : String) :
    text.length ≤ (escapedText text).length := by
  rw [escapedText, String.length_ofList, ← String.length_toList]
  refine length_le_length_flatMap (fun c => ?_) text.toList
  split_ifs <;> simp

private theorem length_le_unicodeText (text : String) :
    text.length ≤ (unicodeText text).length := by
  rw [unicodeText, String.length_ofList, ← String.length_toList]
  refine length_le_length_flatMap (fun c => ?_) text.toList
  split_ifs <;> simp

/-- The character at an end of a spelling is there, and none that is trimmed. -/
private def isEnd (c? : Option Char) : Bool := c?.any fun c => !Text.isBlank c

/-- Unquoting takes off two characters of a spelling, and so less than stands around the text. -/
private theorem length_lt_between {opening closing : List Char}
    (hopening : isEnd opening.head? = true)
    (hclosing : isEnd closing.getLast? = true) (haround : 3 ≤ opening.length + closing.length)
    (body : List Char) :
    body.length < (Name.unquoteChars (opening ++ body ++ closing)).length := by
  obtain ⟨first, hfirst, hfirstBlank⟩ := (Option.any_eq_true _ _).1 hopening
  obtain ⟨last, hlast, hlastBlank⟩ := (Option.any_eq_true _ _).1 hclosing
  have htrim : Text.trimChars (opening ++ body ++ closing) = opening ++ body ++ closing := by
    refine Text.trimChars_of_ends ?_ ?_
    · obtain ⟨rest, rfl⟩ := List.head?_eq_some_iff.1 hfirst
      exact Text.trimFront_cons (by simpa using hfirstBlank) _
    · obtain ⟨front, rfl⟩ := List.getLast?_eq_some_iff.1 hlast
      rw [← List.append_assoc]
      exact Text.trimBack_append (by simpa using hlastBlank) _ []
  have hlength := Name.length_trimChars (opening ++ body ++ closing)
  rw [htrim, List.length_append, List.length_append] at hlength
  omega

/-- A text that is not in plain quotes is shorter than what is read of its spelling. -/
theorem length_lt_write {form : StringForm} (h : ¬ form.IsPlain) (text : String) :
    text.length < (Name.unquote (form.write text)).length := by
  have between : ∀ opening body closing : String, isEnd opening.toList.head? = true →
      isEnd closing.toList.getLast? = true → 3 ≤ opening.toList.length + closing.toList.length →
        text.length ≤ body.length →
          text.length < (Name.unquote (opening ++ body ++ closing)).length := by
    intro opening body closing hopening hclosing haround hbody
    rw [Name.unquote, String.length_ofList, String.toList_append, String.toList_append]
    exact lt_of_le_of_lt (by rwa [String.length_toList])
      (length_lt_between hopening hclosing haround body.toList)
  -- Each form with what stands in front of the text, the text as it is spelled, and what stands
  -- behind it.
  cases form with
  | single => exact absurd (.inl rfl) h
  | double => exact absurd (.inr rfl) h
  | national => exact between "N'" text "'" rfl rfl (by decide) le_rfl
  | hexadecimal => exact between "X'" text "'" rfl rfl (by decide) le_rfl
  | singleBytes => exact between "B'" text "'" rfl rfl (by decide) le_rfl
  | doubleBytes => exact between "B\"" text "\"" rfl rfl (by decide) le_rfl
  | escaped =>
      exact between "E'" (escapedText text) "'" rfl rfl (by decide) (length_le_escapedText text)
  | unicode =>
      exact between "U&'" (unicodeText text) "'" rfl rfl (by decide) (length_le_unicodeText text)
  | tripleSingle => exact between "'''" text "'''" rfl rfl (by decide) le_rfl
  | tripleDouble => exact between "\"\"\"" text "\"\"\"" rfl rfl (by decide) le_rfl
  | rawSingle => exact between "R'" text "'" rfl rfl (by decide) le_rfl
  | rawDouble => exact between "R\"" text "\"" rfl rfl (by decide) le_rfl
  | rawTripleSingle => exact between "R'''" text "'''" rfl rfl (by decide) le_rfl
  | rawTripleDouble => exact between "R\"\"\"" text "\"\"\"" rfl rfl (by decide) le_rfl
  | tripleSingleBytes => exact between "B'''" text "'''" rfl rfl (by decide) le_rfl
  | tripleDoubleBytes => exact between "B\"\"\"" text "\"\"\"" rfl rfl (by decide) le_rfl
  | dollar tag =>
      have hspelled : (dollar tag).write text = "$" ++ tag ++ "$" ++ text ++
          ("$" ++ tag ++ "$") := by
        simp only [write, String.append_assoc]
      rw [hspelled]
      have hlast : ("$" ++ tag ++ "$").toList.getLast? = some '$' :=
        List.getLast?_eq_some_iff.2 ⟨'$' :: tag.toList, by simp⟩
      exact between _ text _ (by simp [isEnd, Text.isBlank]) (by rw [hlast]; rfl)
        (by simp; omega) le_rfl

/-- A text comes through if it is in plain quotes and has no blanks and no pair of quotes around
it. -/
theorem unquote_carried_eq_iff (form : StringForm) (text : String) :
    Name.unquote (form.carried text) = text ↔ form.IsPlain ∧ Text.trim text = text ∧
      ∀ inside, ¬ Name.IsQuoted text.toList inside := by
  by_cases hplain : form.IsPlain
  · have hself := Name.unquoteChars_eq_self_iff text.toList
    rw [carried, if_pos hplain, Name.unquote, Text.trim]
    simpa only [hplain, true_and, ← String.toList_inj, String.toList_ofList] using hself
  · refine iff_of_false (fun heq => ?_) fun h => hplain h.1
    have hlength := length_lt_write hplain text
    rw [carried, if_neg hplain] at heq
    rw [heq] at hlength
    exact lt_irrefl _ hlength

end StringForm

end Sql

/-! ## Conditions -/

/-- A comparison with a text gives a condition if its left side is a column.  What the column is
compared with is the text, or its spelling if it is not in plain quotes, after one more
unquoting: without the quotes around it, or without the blanks where there are no quotes.  So it
is the text itself exactly if that is in plain quotes and has no blanks and no pair of equal
quotes around it. -/
theorem condition_of_text (select : Sql.Select) {condition left right : Sql.Expr}
    {sign text : String} {form : Sql.StringForm} {operator : Comparison}
    (hcondition : select.condition? = some condition)
    (hleading : condition.leading = .binary sign left right)
    (hsign : Comparison.read? sign = some operator)
    (hright : right.stripped = .literal (.string form text)) :
    let carried := form.carried text
    ∃ shown : String,
      (Tree.shaped (.grammar select.outline)).statement.map Statement.condition =
        .ok (left.outline.ref?.map fun ref => ⟨ref, operator, shown⟩) ∧
      (Name.IsQuoted (Text.trim carried).toList shown.toList ∨
        (shown = Text.trim carried ∧ ∀ inside, ¬ Name.IsQuoted (Text.trim carried).toList inside)) ∧
      (shown = text ↔
        form.IsPlain ∧ Text.trim text = text ∧ ∀ inside, ¬ Name.IsQuoted text.toList inside) := by
  intro carried
  refine ⟨Name.unquote carried, ?_, ?_, form.unquote_carried_eq_iff text⟩
  · have hread : (Tree.shaped (.grammar select.outline)).statement.map Statement.condition =
        .ok (select.condition?.map Sql.Expr.outline |>.bind Shape.Grammar.Expr.comparison?) := rfl
    rw [hread, hcondition, Option.map_some, Option.bind_some,
      ← condition.comparison?_leading, hleading,
      Sql.Expr.comparison?_binary hsign, ← right.outline_stripped, hright, Sql.Expr.outline,
      form.comparedText?_outline]
    cases left.outline.ref? <;> rfl
  · have hunquote := (Name.unquoteChars_eq_iff carried.toList _).1 rfl
    rcases hunquote with hquoted | ⟨htrim, hnot⟩
    · exact .inl (by simpa [Name.unquote, Text.trim] using hquoted)
    · exact .inr ⟨by simp [Name.unquote, Text.trim, htrim], by simpa [Text.trim] using hnot⟩

/-- A text with a quote inside comes through, in parentheses below a disjunction and a
conjunction. -/
theorem condition_of_text_kept :
    let column : Sql.Expr := .column [⟨"t", none⟩, ⟨"kind", some '"'⟩]
    let comparison : Sql.Expr := .binary "<>" column (.nested (.literal (.string .single "it's")))
    let condition : Sql.Expr :=
      .binary "and" (.nested (.binary "OR" comparison (.phrase "TRUE"))) (.phrase "TRUE")
    let select : Sql.Select := ⟨[], [], some condition, ""⟩
    condition.leading = comparison ∧ Comparison.read? "<>" = some .notEqual ∧
      (Tree.shaped (.grammar select.outline)).statement.map Statement.condition =
        .ok (some ⟨⟨some "t", "kind"⟩, .notEqual, "it's"⟩) := by
  intro column comparison condition select
  have hleading : condition.leading = comparison := by decide +kernel
  have hsign : Comparison.read? "<>" = some .notEqual := by decide +kernel
  obtain ⟨shown, hread, -, hself⟩ := condition_of_text select rfl hleading hsign rfl
  have hunquoted : ∀ inside, ¬ Name.IsQuoted "it's".toList inside := by
    rintro inside ⟨quote, hquote, heq⟩
    obtain ⟨rfl, -⟩ := List.cons.inj heq
    exact absurd hquote (by decide)
  obtain rfl := hself.2 ⟨.inl rfl, by decide +kernel, hunquoted⟩
  exact ⟨hleading, hsign, hread.trans (by decide +kernel)⟩

/-- The grammar reads a text with blanks around it, and one with double quotes around it.  Both
are lost in the condition, while they stay if the same statements are read by pattern. -/
theorem condition_of_text_lost :
    let select? := fun sql =>
      (Sql.parseScript .generic sql).toOption.bind fun read => (Sql.onlySelect read).toOption
    let compared := fun text =>
      some (Sql.Expr.binary "=" (.column [⟨"a", none⟩]) (.literal (.string .single text)))
    let byGrammar := fun sql => (select? sql).bind fun select =>
      (Tree.shaped (.grammar select.outline)).statement.toOption.bind Statement.condition
    let byPattern := fun sql =>
      (Tree.shaped (.flat (Pattern.read sql))).statement.toOption.bind Statement.condition
    let condition := fun text => some (Condition.mk ⟨none, "a"⟩ .equal text)
    let padded := "SELECT a FROM t WHERE a = ' x '"
    let quoted := "SELECT a FROM t WHERE a = '\"x\"'"
    ((select? padded).bind Sql.Select.condition? = compared " x " ∧
      byGrammar padded = condition "x" ∧
        byPattern padded = condition " x ") ∧
      (select? quoted).bind Sql.Select.condition? = compared "\"x\"" ∧
        byGrammar quoted = condition "x" ∧
        byPattern quoted = condition "\"x\"" := by
  decide +kernel

end JoinGraph
