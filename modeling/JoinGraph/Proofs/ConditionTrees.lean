import JoinGraph.Proofs.BareName
import JoinGraph.Proofs.JoinConjuncts
import JoinGraph.Proofs.WrittenShapes

/-!
# Trees of conditions in two shapes

A condition with conjunctions and disjunctions over comparisons can be written in the grammar
shape and in the structured shape.  Of the first the leftmost comparison is read by the operators
of its nodes, of the second by the first node, going left, that has a column on its left side;
both come to the leftmost leaf (`Filter.leftmost`).

What they make of that leaf differs in two places.  Only the structured shape reads a column that
has a qualifier, but only delimiters for a name; it reads an empty name then.  And where the
grammar shape was written and read back, a comparison with NULL is lost.

## Main results

* `Filter.comparison?_toExpr`, `Filter.predicate?_toJson` — both searches come to the leftmost leaf.
* `conditions_of_trees` — the equality of a join, and the condition of a tree in both shapes.
-/

namespace JoinGraph

open Shape.Grammar (Expr)
open Shape.Structured (Operand predicate? comparedText? valueRef? innerLiteral?)

/-! ## Trees -/

/-- A literal. -/
inductive Literal where
  | text (s : String)
  | number (n : Json.Number)
  | bool (b : Bool)
  | null
  deriving DecidableEq

namespace Literal

/-- The value of a literal. -/
def toJson : Literal → Json
  | text s => .string s
  | number n => .number n
  | bool b => .bool b
  | null => .null

/-- The type of a literal in the grammar shape. -/
def kind : Literal → String
  | text _ => "single_quote_string"
  | number _ => "number"
  | bool _ => "bool"
  | null => "null"

/-- The literal of a condition: a text without its quotes, and any other value as it is written. -/
def shown : Literal → String
  | text s => Name.unquote s
  | number n => Name.unquote n.text
  | bool b => if b then "true" else "false"
  | null => "NULL"

/-- An operand in the structured shape: the value itself, or as a member of an object. -/
def operand (wrapped : Bool) (l : Literal) : Json :=
  if wrapped then .object [("type", .string "literal"), ("literal", l.toJson)] else l.toJson

end Literal

/-- A column, an operator and a literal. -/
structure Leaf where
  table : Option String
  column : String
  operator : String
  literal : Literal

/-- A conjunction or a disjunction, in any case and with blanks around it. -/
structure Connective where
  text : String
  joins : Expr.joinsBy ["AND", "OR"] Expr.binaryKind (some text) = true

/-- A tree of conjunctions and disjunctions over comparisons. -/
inductive Filter where
  | leaf (l : Leaf)
  | joined (connective : Connective) (left right : Filter)

namespace Leaf

/-- The column of a leaf.  With a qualifier, the name is undressed; without, it may be a path. -/
def ref? (l : Leaf) : Option ColumnRef :=
  match l.table.bind Text.nonBlank? with
  | some table =>
    if Name.bare l.column = "" then none else some ⟨some (Name.bare table), Name.bare l.column⟩
  | none => ColumnRef.ofPath? l.column

/-- The condition of a leaf whose column is read as `ref?`; none without a comparison operator. -/
def conditionOn (l : Leaf) (ref? : Option ColumnRef) : Option Condition :=
  (Comparison.read? l.operator).bind fun operator =>
    ref?.map fun ref => ⟨ref, operator, l.literal.shown⟩

/-- The condition of a leaf. -/
def condition? (l : Leaf) : Option Condition := l.conditionOn l.ref?

/-- A qualified column whose name has characters, of which only blanks are left without
delimiters. -/
def isNameless (l : Leaf) : Bool :=
  (l.table.bind Text.nonBlank?).isSome && (Text.nonBlank? l.column).isSome &&
    Name.bare l.column == ""

/-- The column of a leaf, where a name may be empty if nothing but delimiters was there. -/
def looseRef? (l : Leaf) : Option ColumnRef :=
  if l.isNameless then some ⟨(l.table.bind Text.nonBlank?).map Name.bare, ""⟩ else l.ref?

end Leaf

namespace Filter

/-- The leaf that is reached by going left. -/
def leftmost : Filter → Leaf
  | leaf l => l
  | joined _ left _ => left.leftmost

/-- A tree in the grammar shape. -/
def toExpr : Filter → Expr
  | leaf l =>
      .binary l.operator (.column l.table l.column) (.literal l.literal.kind l.literal.toJson)
  | joined connective left right => .binary connective.text left.toExpr right.toExpr

/-- A node in the structured shape. -/
def nodeJson (left operator right : Json) : Json :=
  .object [("left", left), ("operator", operator), ("right", right)]

/-- A tree in the structured shape. -/
def toJson (wrapped : Bool) : Filter → Json
  | leaf l => nodeJson (Operand.mk none l.table (some l.column)).toJson (.string l.operator)
      (l.literal.operand wrapped)
  | joined connective left right =>
      nodeJson (left.toJson wrapped) (.string connective.text) (right.toJson wrapped)

@[simp] theorem get?_left (left operator right : Json) :
    (nodeJson left operator right).get? "left" = some left := by
  simp [nodeJson, Json.get?]

@[simp] theorem get?_operator (left operator right : Json) :
    (nodeJson left operator right).get? "operator" = some operator := by
  simp [nodeJson, Json.get?]

@[simp] theorem get?_right (left operator right : Json) :
    (nodeJson left operator right).get? "right" = some right := by
  simp [nodeJson, Json.get?]

end Filter

/-! ## The grammar shape -/

section Grammar

/-- A comparison operator joins no conditions. -/
theorem read?_eq_none_of_joinsBy {kind operator : String}
    (h : Expr.joinsBy ["AND", "OR"] kind (some operator) = true) :
    Comparison.read? operator = none := by
  have hsigns : ∀ sign ∈ ["=", "!=", "<>", "<", ">", "<=", ">="],
      ["AND", "OR"].any (Text.equalFold · sign) = false := by decide
  by_contra hread
  have hsign : Text.trim operator ∈ ["=", "!=", "<>", "<", ">", "<=", ">="] := by
    unfold Comparison.read? at hread
    split at hread <;> simp_all
  rw [Expr.joinsBy, Option.any_some, hsigns _ hsign, Bool.and_false] at h
  cases h

theorem ref?_column (l : Leaf) : (Expr.column l.table l.column).ref? = l.ref? := by
  simp only [Expr.column, Expr.ref?, guard, if_true, Option.bind_eq_bind, Option.bind_some,
    Expr.columnName?, Leaf.ref?, String.isEmpty_iff]
  rfl

theorem comparedText?_literal (l : Literal) :
    (Expr.literal l.kind l.toJson).comparedText? = some l.shown := by
  cases l with
  | text s => rfl
  | number n => rfl
  | bool b => cases b <;> rfl
  | null => rfl

/-- The comparison of a leaf. -/
theorem comparison?_leaf (l : Leaf) : (Filter.leaf l).toExpr.comparison? = l.condition? := by
  rw [Filter.toExpr, Expr.binary, Expr.comparison?_node]
  split
  · next hjoins =>
      rw [Leaf.condition?, Leaf.conditionOn, read?_eq_none_of_joinsBy hjoins, Option.bind_some]
      rfl
  · rw [if_pos rfl, Leaf.condition?, Leaf.conditionOn]
    simp [ref?_column, comparedText?_literal, Option.map_eq_bind]

theorem Filter.comparison?_toExpr (f : Filter) : f.toExpr.comparison? = f.leftmost.condition? := by
  induction f with
  | leaf l => exact comparison?_leaf l
  | joined connective left right ih _ =>
      rw [toExpr, Expr.binary, Expr.comparison?_node, if_pos connective.joins, Option.bind_some, ih,
        leftmost]

/-- The literal NULL is the only value that is null. -/
theorem isNull_literal (l : Literal) :
    (Expr.literal l.kind l.toJson).isNull = decide (l = .null) := by
  cases l <;> rfl

/-- What is lost of a tree that was written and read back is a leftmost comparison with NULL. -/
theorem Filter.comparison?_readBack (f : Filter) : f.toExpr.readBack.comparison? =
    if f.leftmost.literal = .null then none else f.leftmost.condition? := by
  rw [Expr.comparison?_readBack, f.comparison?_toExpr]
  induction f with
  | leaf l =>
      rw [toExpr, Expr.binary, Expr.comparesNull_node, leftmost]
      split
      · next hjoins =>
          have hnone : l.condition? = none := by
            rw [Leaf.condition?, Leaf.conditionOn, read?_eq_none_of_joinsBy hjoins,
              Option.bind_none]
          simp [hnone]
      · have href : (Expr.literal l.literal.kind l.literal.toJson).ref? = none := by
          cases l.literal <;> rfl
        simp [href, isNull_literal]
  | joined connective left right ih _ =>
      rw [toExpr, Expr.binary, Expr.comparesNull_node, if_pos connective.joins, Option.any_some]
      exact ih

end Grammar

/-! ## The structured shape -/

section Structured

/-- In the structured shape a name may be empty. -/
theorem ref?_operand (l : Leaf) : Operand.ref? ⟨none, l.table, some l.column⟩ = l.looseRef? := by
  have hbare := Name.bare_trim l.column
  have hpath := ColumnRef.ofPath?_trim l.column
  rw [Operand.ref?, Leaf.looseRef?, Leaf.isNameless, Leaf.ref?]
  simp only [Option.bind_eq_bind, Option.bind_some]
  cases hcolumn : Text.nonBlank? l.column with
  | none =>
      have htrim : Text.trim l.column = "" := by
        by_contra hne
        have hsome := (Text.nonBlank?_eq_some_iff l.column _).2 ⟨rfl, hne⟩
        rw [hcolumn] at hsome
        cases hsome
      have hname : Name.bare l.column = "" := by
        rw [← hbare, htrim]
        rfl
      have hnone : ColumnRef.ofPath? l.column = none := by
        rw [← hpath, htrim]
        rfl
      cases l.table.bind Text.nonBlank? <;> simp [hname, hnone]
  | some column =>
      obtain ⟨rfl, -⟩ := (Text.nonBlank?_eq_some_iff l.column column).1 hcolumn
      cases l.table.bind Text.nonBlank? with
      | none => simp [hpath]
      | some table => by_cases hname : Name.bare l.column = "" <;> simp [hbare, hname]

theorem valueRef?_operand (l : Leaf) :
    valueRef? (Operand.mk none l.table (some l.column)).toJson = l.looseRef? := by
  rw [valueRef?, Operand.decode_toJson]
  exact ref?_operand l

/-- A node of a tree is no column. -/
theorem Filter.valueRef?_toJson (wrapped : Bool) (f : Filter) :
    valueRef? (f.toJson wrapped) = none := by
  have hread : ∀ left operator right : Json,
      Operand.decode (nodeJson left operator right) = .ok ⟨none, none, none⟩ := by
    intro left operator right
    refine Json.Decoder.record_of_reads ?_
    refine Json.Fields.reads_seq (Json.Fields.reads_seq (Json.Fields.reads_map _ ?_) ?_) ?_
    · exact Json.Fields.reads_optional_text (.inl (by simp))
    · exact Json.Fields.reads_optional_text (.inl (by simp))
    · exact Json.Fields.reads_optional_text (.inl (by simp))
  cases f with
  | leaf l =>
      rw [toJson, valueRef?, hread]
      rfl
  | joined connective left right =>
      rw [toJson, valueRef?, hread]
      rfl

theorem comparedText?_operand (wrapped : Bool) (l : Literal) :
    comparedText? (l.operand wrapped) = some l.shown := by
  have hplain : comparedText? l.toJson = some l.shown := by
    cases l with
    | text s => rw [Literal.toJson, comparedText?, Literal.shown]
    | number n => rw [Literal.toJson, comparedText?, Literal.shown]
    | bool b => rw [Literal.toJson, comparedText?, Literal.shown]
    | null => rw [Literal.toJson, comparedText?, Literal.shown]
  cases wrapped with
  | false => exact hplain
  | true =>
      have hinner : innerLiteral? (.object [("type", .string "literal"), ("literal", l.toJson)]) =
          some l.toJson := by
        simp [innerLiteral?, Json.get?]
      rw [Literal.operand, if_pos rfl, comparedText?]
      split
      · next inner hsome =>
          obtain rfl := Option.some.inj (hinner.symm.trans hsome)
          exact hplain
      · next hnone =>
          rw [hinner] at hnone
          cases hnone

/-- The search goes on in a left side that is no column. -/
theorem predicate?_of_left {v left : Json} (hleft : v.get? "left" = some left) : predicate? v =
    match valueRef? left with
    | none => predicate? left
    | some ref => do
      let operator ← Comparison.read? (← (← v.get? "operator").asString?)
      return ⟨ref, operator, ← comparedText? (← v.get? "right")⟩ := by
  rw [predicate?]
  split
  · next hnone =>
      rw [hleft] at hnone
      cases hnone
  · next found hsome =>
      obtain rfl := Option.some.inj (hleft.symm.trans hsome)
      rfl

theorem predicate?_of_no_left {v : Json} (hleft : v.get? "left" = none) : predicate? v = none := by
  rw [predicate?]
  split
  · rfl
  · next found hsome =>
      rw [hleft] at hsome
      cases hsome

theorem predicate?_leaf (wrapped : Bool) (l : Leaf) :
    predicate? ((Filter.leaf l).toJson wrapped) = l.conditionOn l.looseRef? := by
  rw [Filter.toJson, predicate?_of_left (Filter.get?_left _ _ _), valueRef?_operand]
  cases l.looseRef? with
  | none =>
      have hend : predicate? (Operand.mk none l.table (some l.column)).toJson = none :=
        predicate?_of_no_left (by simp [Operand.toJson, Json.get?])
      rw [hend, Leaf.conditionOn]
      simp
  | some ref =>
      simp [Json.asString?, comparedText?_operand, Leaf.conditionOn, Option.map_eq_bind]

theorem Filter.predicate?_toJson (wrapped : Bool) (f : Filter) :
    predicate? (f.toJson wrapped) = f.leftmost.conditionOn f.leftmost.looseRef? := by
  induction f with
  | leaf l => exact predicate?_leaf wrapped l
  | joined connective left right ih _ =>
      rw [toJson, predicate?_of_left (get?_left _ _ _), left.valueRef?_toJson]
      exact ih

end Structured

/-! ## Statements -/

namespace Shape

/-- A SELECT in the grammar shape with a tree as its condition. -/
def Grammar.Select.filteredBy (select : Grammar.Select) (f : Filter) : Grammar.Select :=
  { select with kind := "select", condition := some f.toExpr }

/-- A SELECT in the structured shape with a tree as its condition. -/
def Structured.Select.filteredBy (select : Structured.Select) (wrapped : Bool) (f : Filter) :
    Structured.Select :=
  { select with condition := some (f.toJson wrapped) }

theorem Grammar.Select.condition_filteredBy (select : Grammar.Select) (f : Filter) :
    (Tree.shaped (.grammar (select.filteredBy f))).statement.map Statement.condition =
      .ok f.leftmost.condition? := congrArg Except.ok f.comparison?_toExpr

theorem Grammar.Select.condition_written_filteredBy (select : Grammar.Select) (f : Filter) :
    (Tree.json (select.filteredBy f).toJson).statement.map Statement.condition =
      .ok (if f.leftmost.literal = .null then none else f.leftmost.condition?) := by
  have hkind : Text.equalFold (select.filteredBy f).kind "select" = true :=
    (by decide : Text.equalFold "select" "select" = true)
  rw [Tree.statement, Tree.recognize, recognize_toJson hkind, ← f.comparison?_readBack]
  rfl

theorem Structured.Select.condition_written_filteredBy (select : Structured.Select) (wrapped : Bool)
    (f : Filter) :
    (Tree.json (select.filteredBy wrapped f).toJson).statement.map Statement.condition =
      .ok (f.leftmost.conditionOn f.leftmost.looseRef?) := by
  have hobject : Json.Fields.unlessNull (select.filteredBy wrapped f).condition =
      some (f.toJson wrapped) := by cases f <;> rfl
  rw [Tree.statement, Tree.recognize, recognize_toJson, hobject, ← f.predicate?_toJson wrapped]
  rfl

end Shape

open Shape.Grammar (Reassociated)

/--
The equality of a join is the first one of two columns among the conjuncts of its condition, from
left to right, and there is none if no conjunct is one; so it does not depend on how the
conjunctions are nested.

The condition of a tree of conjunctions and disjunctions is that of its leftmost leaf, in the
grammar shape and in the structured shape, but for two leaves.  A comparison with NULL is lost
where a tree in the grammar shape was written and read back.  A column with a qualifier of whose
name only delimiters are there is no column in the grammar shape, and a column with an empty name
in the structured shape.
-/
theorem conditions_of_trees (e e' : Expr) (f : Filter) (g : Shape.Grammar.Select)
    (s : Shape.Structured.Select) (wrapped : Bool) :
    (∀ sides, e.equality? = some sides ↔
      ∃ front leaf back, e.conjuncts = front ++ leaf :: back ∧ leaf.Equates sides ∧
        ∀ other ∈ front, ∀ s, ¬other.Equates s) ∧
    (e.equality? = none ↔ ∀ leaf ∈ e.conjuncts, ∀ sides, ¬leaf.Equates sides) ∧
    (Reassociated e e' → e.equality? = e'.equality?) ∧
    (Tree.shaped (.grammar (g.filteredBy f))).statement.map Statement.condition =
      .ok f.leftmost.condition? ∧
    (Tree.json (g.filteredBy f).toJson).statement.map Statement.condition =
      .ok (if f.leftmost.literal = .null then none else f.leftmost.condition?) ∧
    (Tree.json (s.filteredBy wrapped f).toJson).statement.map Statement.condition =
      .ok (f.leftmost.conditionOn f.leftmost.looseRef?) ∧
    (f.leftmost.isNameless = false →
      f.leftmost.conditionOn f.leftmost.looseRef? = f.leftmost.condition?) := by
  refine ⟨e.equality?_eq_some_iff, e.equality?_eq_none_iff, fun h => h.equality?_eq,
    g.condition_filteredBy f, g.condition_written_filteredBy f,
      s.condition_written_filteredBy wrapped f, ?_⟩
  intro hnamed
  rw [Leaf.looseRef?, hnamed, if_neg Bool.false_ne_true, Leaf.condition?]

/-- Three conjuncts, nested to the left and to the right, and a disjunction below a conjunction. -/
theorem conditions_of_trees_nested :
    let conjunction : Shape.Grammar.Conjunction := ⟨none, none, " and ", none, by decide⟩
    let greater :=
      Expr.binary ">" (.column (some "o") "total") (.literal "number" (.number (.natural 9)))
    let first := Expr.binary " = " (.column (some "u") "id") (.column none "o.[user_id]")
    let second := Expr.binary "=" (.column (some "u") "org") (.column (some "o") "org")
    let e := conjunction.of (some (conjunction.of (some greater) (some first))) (some second)
    let e' := conjunction.of (some greater) (some (conjunction.of (some first) (some second)))
    let f : Filter := .joined ⟨"and", by decide⟩
      (.joined ⟨" OR ", by decide⟩ (.leaf ⟨some "o", "[status]", "<>", .text "'new'"⟩)
        (.leaf ⟨none, "paid", "=", .bool true⟩)) (.leaf ⟨none, "size", "LIKE", .null⟩)
    Reassociated e e' ∧ e.equality? = e'.equality? ∧
      e'.equality? = some (⟨some "u", "id"⟩, ⟨some "o", "user_id"⟩) ∧
        f.leftmost.isNameless = false ∧
      f.leftmost.conditionOn f.leftmost.looseRef? = f.leftmost.condition? ∧
      f.leftmost.condition? = some ⟨⟨some "o", "status"⟩, .notEqual, "new"⟩ := by
  intro conjunction greater first second e e' f
  have hrotated : Reassociated e e' :=
    .rotate conjunction conjunction conjunction conjunction (some greater)
      (some first) (some second)
  have hnamed : f.leftmost.isNameless = false := by decide +kernel
  have htrees := conditions_of_trees e e' f ⟨"select", .all "*", [], none⟩ ⟨[], [], [], none⟩ true
  exact ⟨hrotated, htrees.2.2.1 hrotated, by decide +kernel, hnamed, htrees.2.2.2.2.2.2 hnamed,
    by decide +kernel⟩

/-- A comparison with NULL, and one of a column whose name is only delimiters. -/
theorem conditions_of_trees_differ :
    let lost : Filter := .leaf ⟨none, "a", "=", .null⟩
    let nameless : Filter := .leaf ⟨some "t", "[]", "=", .number (.natural 1)⟩
    let g : Shape.Grammar.Select := ⟨"select", .all "*", [⟨none, "t", none, none, none⟩], none⟩
    let s : Shape.Structured.Select := ⟨[], [⟨"t", none⟩], [], none⟩
    let grammar :=
      fun f => (Tree.json (g.filteredBy f).toJson).statement.toOption.bind Statement.condition
    let structured := fun f =>
      (Tree.json (s.filteredBy true f).toJson).statement.toOption.bind Statement.condition
    grammar lost = none ∧ structured lost = some ⟨⟨none, "a"⟩, .equal, "NULL"⟩ ∧
      grammar nameless = none ∧ structured nameless = some ⟨⟨some "t", ""⟩, .equal, "1"⟩ := by
  decide +kernel

end JoinGraph
