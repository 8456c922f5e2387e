import JoinGraph.Proofs.Records
import JoinGraph.Shape
import JoinGraph.Sql
import Mathlib.Data.Option.Basic

/-!
# Trees that are written and read back

A tree in the grammar shape may be handed on as it is, or written as a value and read back.
Reading finds everything that was written but the nulls: a node with the value null comes back as
a node without a value (`Expr.readBack`).  Such a node is a literal, so columns and equalities of
columns do not change, and of a statement only a comparison with NULL is lost.

## Main results

* `Grammar.Select.decode_toJson` — what comes back of a tree.
* `Grammar.Expr.equality?_readBack`, `Grammar.Expr.comparison?_readBack` — what an expression still
  says.
* `statement_written_outline` — what a statement loses when its tree is written and read back.
-/

namespace JoinGraph.Shape.Grammar

open Json (Decoder Fields)
open Json.Fields (unlessNull)

/-! ## Expressions that are read back -/

namespace Expr

/-- Induction on an expression: the operands of a node come before it. -/
@[elab_as_elim]
theorem byOperands {motive : Expr → Prop}
    (node : ∀ kind table column operator left right value, (∀ l, left = some l → motive l) →
      (∀ r, right = some r → motive r) →
      motive (.node kind table column operator left right value)) :
    ∀ e, motive e
  | .node kind table column operator left right value =>
    node kind table column operator left right value
      (fun l _ => byOperands node l) (fun r _ => byOperands node r)

/-- What comes back of a written expression: nulls are nothing. -/
def readBack : Expr → Expr
  | node kind table column operator left right value =>
    node kind table (unlessNull column) operator
      (match left with
        | some l => some l.readBack
        | none => none)
      (match right with
        | some r => some r.readBack
        | none => none)
      (unlessNull value)

theorem readBack_node (kind : String) (table : Option String) (column : Option Json)
    (operator : Option String) (left right : Option Expr) (value : Option Json) :
    (node kind table column operator left right value).readBack =
      node kind table (unlessNull column) operator (left.map readBack) (right.map readBack)
        (unlessNull value) := by
  cases left <;> cases right <;> rfl

/-- The members of a written expression. -/
def members (kind : String) (table : Option String) (column : Option Json)
    (operator : Option String) (left right : Option Expr) (value : Option Json) :
    List (String × Json) :=
  [("type", .string kind)] ++ Json.optionalMember "table" .string table
    ++ Json.optionalMember "column" id column ++ Json.optionalMember "operator" .string operator
    ++ Json.optionalMember "left" toJson left ++ Json.optionalMember "right" toJson right
    ++ Json.optionalMember "value" id value

theorem toJson_node (kind : String) (table : Option String) (column : Option Json)
    (operator : Option String) (left right : Option Expr) (value : Option Json) :
    (node kind table column operator left right value).toJson =
      .object (members kind table column operator left right value) := by
  cases left <;> cases right <;> rfl

theorem exists_toJson (e : Expr) : ∃ members, e.toJson = .object members := by
  cases e
  exact ⟨_, toJson_node _ _ _ _ _ _ _⟩

/-- A written expression is no null, so it is read where it is optional. -/
theorem orNull_toJson {decoder : Decoder Expr} {e : Expr} (h : decoder e.toJson = .ok e.readBack) :
    Decoder.orNull decoder e.toJson = .ok (some e.readBack) := by
  obtain ⟨members, hmembers⟩ := e.exists_toJson
  rw [hmembers] at h ⊢
  exact Decoder.orNull_object h

/-- A written expression is read back as deeply as it is nested. -/
theorem decodeWithin_toJson (fuel : Nat) (e : Expr) (hfuel : e.toJson.depth < fuel) :
    decodeWithin fuel e.toJson = .ok e.readBack := by
  induction fuel generalizing e with
  | zero => exact absurd hfuel (Nat.not_lt_zero _)
  | succ fuel ih =>
      obtain ⟨kind, table, column, operator, left, right, value⟩ := e
      rw [toJson_node] at hfuel ⊢
      rw [readBack_node]
      let ms := members kind table column operator left right value
      have hleft : Json.find? "left" ms = left.map toJson := by simp [ms, members]
      have hright : Json.find? "right" ms = right.map toJson := by simp [ms, members]
      -- An operand is found under its name, so it is less deep than the node.
      have hoperand : ∀ name operand, Json.find? name ms = Option.map toJson operand →
          ∀ e, operand = some e →
            Decoder.orNull (decodeWithin fuel) e.toJson = .ok (some e.readBack) := by
        rintro name _ hfind e rfl
        have hdepth : e.toJson.depth < (Json.object ms).depth := Json.depth_lt_of_find? hfind
        exact orNull_toJson (ih e (Nat.lt_of_lt_of_le hdepth (Nat.lt_succ_iff.1 hfuel)))
      refine Json.Decoder.record_of_reads ?_
      refine Fields.reads_seq (Fields.reads_seq (Fields.reads_seq (Fields.reads_seq
        (Fields.reads_seq (Fields.reads_seq (Fields.reads_map _ ?_) ?_) ?_) ?_) ?_) ?_) ?_
      · exact Fields.reads_withDefault (v := .string kind) (by simp [members]) rfl
      · exact Fields.reads_optional_text (.inl (by simp [members]))
      · exact Fields.reads_optional_any (by simp [members])
      · exact Fields.reads_optional_text (.inl (by simp [members]))
      · exact Fields.reads_optional_of_encoded toJson hleft (hoperand "left" left hleft)
      · exact Fields.reads_optional_of_encoded toJson hright (hoperand "right" right hright)
      · exact Fields.reads_optional_any (by simp [members])

theorem decode_toJson (e : Expr) : decode e.toJson = .ok e.readBack :=
  decodeWithin_toJson _ e (Nat.lt_succ_self _)

end Expr

/-! ## Trees that are read back -/

/-- What comes back of a written entry of the SELECT list. -/
def Column.readBack (c : Column) : Column := { c with expr := c.expr.readBack }

/-- What comes back of a written SELECT list. -/
def Columns.readBack : Columns → Columns
  | list columns => list (columns.map Column.readBack)
  | all text => all text

/-- What comes back of a written entry of the FROM list. -/
def Source.readBack (s : Source) : Source := { s with on := s.on.map Expr.readBack }

/-- What comes back of a written SELECT statement. -/
def Select.readBack (s : Select) : Select where
  kind := s.kind
  columns := s.columns.readBack
  sources := s.sources.map Source.readBack
  condition := s.condition.map Expr.readBack

theorem Column.decode_toJson (c : Column) : Column.decode c.toJson = .ok c.readBack := by
  refine Json.Decoder.record_of_reads ?_
  refine Fields.reads_seq (Fields.reads_map _ ?_) ?_
  · exact Fields.reads_required (v := c.expr.toJson) (by simp) c.expr.decode_toJson
  · exact Fields.reads_optional_text (.inr (by simp))

theorem Columns.decode_toJson (c : Columns) : Columns.decode c.toJson = .ok c.readBack := by
  cases c with
  | list columns =>
      have hlist : Decoder.listOf Column.decode (.array (columns.map Column.toJson)) =
          .ok (columns.map Column.readBack) :=
        Decoder.each_map _ _ columns fun c _ => c.decode_toJson
      simp only [toJson, decode, hlist]
      rfl
  | all text => rfl

theorem Source.decode_toJson (s : Source) : Source.decode s.toJson = .ok s.readBack := by
  refine Json.Decoder.record_of_reads ?_
  refine Fields.reads_seq (Fields.reads_seq (Fields.reads_seq (Fields.reads_seq
    (Fields.reads_map _ ?_) ?_) ?_) ?_) ?_
  · exact Fields.reads_optional_text (.inl (by simp))
  · exact Fields.reads_withDefault (v := .string s.table) (by simp) rfl
  · exact Fields.reads_optional_text (.inr (by simp))
  · exact Fields.reads_optional_text (.inl (by simp))
  · exact Fields.reads_optional_of_encoded Expr.toJson (by simp)
      fun e _ => Expr.orNull_toJson e.decode_toJson

/-- A written tree is read back, apart from its nulls. -/
theorem Select.decode_toJson (s : Select) : Select.decode s.toJson = .ok s.readBack := by
  have hsources : Decoder.listOf Source.decode (.array (s.sources.map Source.toJson)) =
      .ok (s.sources.map Source.readBack) :=
    Decoder.each_map _ _ s.sources fun source _ => source.decode_toJson
  refine Json.Decoder.record_of_reads (Fields.reads_map _ (Fields.reads_required
    (v := .object [("type", .string s.kind), ("columns", s.columns.toJson),
      ("from", .array (s.sources.map Source.toJson)),
      ("where", Json.orNull Expr.toJson s.condition)]) (by simp) ?_))
  refine Json.Decoder.record_of_reads ?_
  refine Fields.reads_seq (Fields.reads_seq (Fields.reads_seq (Fields.reads_map _ ?_) ?_) ?_) ?_
  · exact Fields.reads_required (v := .string s.kind) (by simp) rfl
  · exact Fields.reads_withDefault (v := s.columns.toJson) (by simp) s.columns.decode_toJson
  · refine Fields.reads_map (a := some (s.sources.map Source.readBack)) (·.getD []) ?_
    refine Fields.reads_withDefault (v := .array (s.sources.map Source.toJson)) (by simp) ?_
    simp only [Decoder.orNull, hsources]
    rfl
  · exact Fields.reads_optional_of_orNull Expr.toJson (by simp)
      fun e _ => Expr.orNull_toJson e.decode_toJson

/-! ## What a tree still says -/

namespace Expr

/-- A column is named by a text, so it comes back. -/
theorem ref?_readBack (e : Expr) : e.readBack.ref? = e.ref? := by
  obtain ⟨kind, table, column, operator, left, right, value⟩ := e
  have hname : (unlessNull column).bind columnName? = column.bind columnName? := by
    cases column with
    | none => rfl
    | some v => cases v <;> rfl
  rw [readBack_node, ref?, ref?, hname]

theorem equality?_node (kind : String) (table : Option String) (column : Option Json)
    (operator : Option String) (left right : Option Expr) (value : Option Json) :
    (node kind table column operator left right value).equality? =
      if joinsBy ["AND"] kind operator then
        left.bind equality? <|> right.bind equality?
      else if joinsBy ["="] kind operator then
        left.bind fun l => l.ref?.bind fun a => right.bind fun r => r.ref?.bind fun b => some (a, b)
      else none := by
  rw [equality?.eq_def]
  cases left <;> cases right <;> rfl

/-- The equality of a join comes back: it compares columns. -/
theorem equality?_readBack (e : Expr) : e.readBack.equality? = e.equality? := by
  induction e using byOperands with
  | node kind table column operator left right value hleft hright =>
      have hl : (left.map readBack).bind equality? = left.bind equality? := by
        cases left with
        | none => rfl
        | some l => exact hleft l rfl
      have hr : (right.map readBack).bind equality? = right.bind equality? := by
        cases right with
        | none => rfl
        | some r => exact hright r rfl
      rw [readBack_node, equality?_node, equality?_node, hl, hr]
      simp only [Option.bind_map, Function.comp_def, ref?_readBack]

/-- The node holds the value null. -/
def isNull : Expr → Bool
  | node _ _ _ _ _ _ (some .null) => true
  | _ => false

theorem comparedText?_readBack (e : Expr) : e.readBack.comparedText? =
    if e.ref?.isNone && e.isNull then none else e.comparedText? := by
  have hliteral : e.readBack.literalText? = if e.isNull then none else e.literalText? := by
    obtain ⟨kind, table, column, operator, left, right, value⟩ := e
    rw [readBack_node]
    cases value with
    | none => rfl
    | some v => cases v <;> rfl
  rw [comparedText?, comparedText?, ref?_readBack, hliteral]
  cases e.ref? <;> cases e.isNull <;> rfl

/-- The comparison that is reached by going left is one with NULL. -/
def comparesNull : Expr → Bool
  | node kind _ _ operator left right _ =>
    if joinsBy ["AND", "OR"] kind operator then
      match left with
      | some l => comparesNull l
      | none => false
    else right.any fun r => r.ref?.isNone && r.isNull

theorem comparison?_node (kind : String) (table : Option String) (column : Option Json)
    (operator : Option String) (left right : Option Expr) (value : Option Json) :
    (node kind table column operator left right value).comparison? =
      if joinsBy ["AND", "OR"] kind operator then left.bind comparison?
      else if kind = binaryKind then
        (operator.bind Comparison.read?).bind fun o => left.bind fun l => l.ref?.bind fun ref =>
          right.bind fun r => r.comparedText?.bind fun text => some ⟨ref, o, text⟩
      else none := by
  have hguard : (guard (kind = binaryKind) : Option Unit) =
      if kind = binaryKind then some () else none := rfl
  rw [comparison?.eq_def]
  by_cases hjoins : joinsBy ["AND", "OR"] kind operator = true
  · simp only [hjoins, if_true]
    cases left <;> rfl
  · by_cases hkind : kind = binaryKind
    · simp only [hjoins, hguard, if_pos hkind, Bool.false_eq_true, if_false, Option.bind_eq_bind,
        Option.bind_some, Option.bind_assoc, Option.pure_def]
    · simp only [hjoins, hguard, if_neg hkind, Bool.false_eq_true, if_false]
      rfl

theorem comparesNull_node (kind : String) (table : Option String) (column : Option Json)
    (operator : Option String) (left right : Option Expr) (value : Option Json) :
    (node kind table column operator left right value).comparesNull =
      if joinsBy ["AND", "OR"] kind operator then left.any comparesNull
      else right.any fun r => r.ref?.isNone && r.isNull := by
  rw [comparesNull.eq_def]
  cases left <;> rfl

/-- A comparison comes back unless it is one with NULL. -/
theorem comparison?_readBack (e : Expr) :
    e.readBack.comparison? = if e.comparesNull then none else e.comparison? := by
  induction e using byOperands with
  | node kind table column operator left right value hleft hright =>
      rw [readBack_node, comparison?_node, comparison?_node, comparesNull_node]
      by_cases hjoins : joinsBy ["AND", "OR"] kind operator = true
      · simp only [hjoins, if_true]
        cases left with
        | none => rfl
        | some l => exact hleft l rfl
      · simp only [hjoins, Bool.false_eq_true, if_false]
        cases right with
        | none => simp
        | some r =>
            simp only [Option.bind_map, Function.comp_def, ref?_readBack, Option.map_some,
              Option.bind_some, comparedText?_readBack, Option.any_some]
            cases (r.ref?.isNone && r.isNull) <;> simp

end Expr

/-- An entry of the SELECT list projects the same column. -/
theorem Column.projected?_readBack (c : Column) : c.readBack.projected? = c.projected? := by
  rw [projected?, projected?, readBack, Expr.ref?_readBack]

/-- An entry of the FROM list adds the same table and the same join. -/
theorem Source.addTo_readBack (s : Statement) (source : Source) :
    source.readBack.addTo s = source.addTo s := by
  have hsides : (source.on.map Expr.readBack).bind Expr.equality? =
      source.on.bind Expr.equality? := by
    simp only [Option.bind_map, Function.comp_def, Expr.equality?_readBack]
  simp only [addTo, readBack, hsides, Option.isSome_map]

/-- The condition of a SELECT is a comparison with NULL. -/
def Select.comparesNull (select : Select) : Bool := select.condition.any Expr.comparesNull

/-- What comes back of a tree says the same, apart from a comparison with NULL. -/
theorem Select.statement_readBack (select : Select) :
    select.readBack.statement = { select.statement with
      condition := if select.comparesNull then none else select.statement.condition } := by
  obtain ⟨kind, columns, sources, condition⟩ := select
  have hsources : (sources.map Source.readBack).foldl Source.addTo Statement.empty =
      sources.foldl Source.addTo Statement.empty := by
    simp only [List.foldl_map, Source.addTo_readBack]
  have hcondition : (condition.map Expr.readBack).bind Expr.comparison? =
      if condition.any Expr.comparesNull then none else condition.bind Expr.comparison? := by
    cases condition with
    | none => rfl
    | some e => exact e.comparison?_readBack
  have hprojected : ∀ columns : List Column,
      (columns.map Column.readBack).filterMap Column.projected? =
        columns.filterMap Column.projected? := by
    intro columns
    simp only [List.filterMap_map, Function.comp_def, Column.projected?_readBack]
  cases columns <;>
    simp only [statement, readBack, comparesNull, Columns.readBack, hsources, hprojected,
      hcondition] <;> rfl

/-- A written tree whose root names a SELECT is recognized. -/
theorem Select.recognize_toJson {select : Select} (h : Text.equalFold select.kind "select" = true) :
    Tree.recognizeJson select.toJson = .ok (.grammar select.readBack) := by
  have hroot : Tree.hasGrammarRoot select.toJson = true := h
  rw [Tree.recognizeJson, if_pos hroot, Tree.readShape, select.decode_toJson]

end JoinGraph.Shape.Grammar

namespace JoinGraph

open Shape.Grammar (Expr)

/--
The outline of a SELECT that is written as a value and read back stands for the statement that it
stands for itself, but for the condition if that is a comparison with NULL: this condition is lost.
-/
theorem statement_written_outline (select : Sql.Select) :
    (Tree.json select.outline.toJson).statement = .ok { select.outline.statement with
      condition := if select.outline.comparesNull then none
        else select.outline.statement.condition } := by
  have hread : Tree.recognizeJson select.outline.toJson = .ok (.grammar select.outline.readBack) :=
    Shape.Grammar.Select.recognize_toJson (by decide : Text.equalFold "select" "select" = true)
  rw [Tree.statement, Tree.recognize, hread]
  exact congrArg Except.ok select.outline.statement_readBack

/-- The comparison with NULL of a text is read as a condition, and no longer once it was written. -/
theorem statement_written_null :
    (Sql.parse .generic "SELECT * FROM t WHERE a = NULL").toOption.map (fun select =>
        ((Tree.shaped (.grammar select)).statement.toOption.map Statement.condition,
          (Tree.json select.toJson).statement.toOption.map Statement.condition)) =
      some (some (some ⟨⟨none, "a"⟩, .equal, "NULL"⟩), some none) := by
  decide +kernel

end JoinGraph
