import JoinGraph.Proofs.LetterCase
import JoinGraph.Proofs.WrittenTrees

/-!
# The equality of a join

The condition of a join is a tree of conjunctions.  Its leaves, from left to right, are its
conjuncts, and the sides of the join are those of the first conjunct that equates two columns.
What the tree looks like above its leaves does not matter, so it may be associated in any way.

## Main results

* `equality?_eq_findSome?` — the search of a tree is the search of its conjuncts.
* `equality?_eq_some_iff`, `equality?_eq_none_iff` — which conjunct is found, and when none is.
* `Reassociated.equality?_eq` — trees that differ in the way their conjunctions are nested.
-/

namespace JoinGraph.Shape.Grammar

namespace Expr

/-! ## Conjuncts -/

/-- Whether an expression is a conjunction. -/
def isConjunction : Expr → Bool
  | node kind _ _ operator _ _ _ => joinsBy ["AND"] kind operator

/-- The leaves below nested conjunctions, from left to right. -/
def conjuncts : Expr → List Expr
  | node kind table column operator left right value =>
    if joinsBy ["AND"] kind operator then
      (match left with
        | some l => conjuncts l
        | none => []) ++
      (match right with
        | some r => conjuncts r
        | none => [])
    else [node kind table column operator left right value]

/-- The expression equates two columns that can be read. -/
inductive Equates : Expr → ColumnRef × ColumnRef → Prop where
  | intro {table : Option String} {column : Option Json} {operator : String} {left right : Expr}
      {value : Option Json} {l r : ColumnRef} (hsign : Text.trim operator = "=")
      (hleft : left.ref? = some l) (hright : right.ref? = some r) :
      Equates (node binaryKind table column (some operator) (some left) (some right) value) (l, r)

theorem conjuncts_node (kind : String) (table : Option String) (column : Option Json)
    (operator : Option String) (left right : Option Expr) (value : Option Json) :
    (node kind table column operator left right value).conjuncts =
      if joinsBy ["AND"] kind operator then left.elim [] conjuncts ++ right.elim [] conjuncts
      else [node kind table column operator left right value] := by
  rw [conjuncts.eq_def]
  cases left <;> cases right <;> rfl

theorem not_isConjunction_of_mem {e leaf : Expr} (h : leaf ∈ e.conjuncts) :
    leaf.isConjunction = false := by
  induction e using byOperands with
  | node kind table column operator left right value hleft hright =>
      rw [conjuncts_node] at h
      split at h
      · rcases List.mem_append.1 h with h | h
        · cases left with
          | none => cases h
          | some l => exact hleft l rfl h
        · cases right with
          | none => cases h
          | some r => exact hright r rfl h
      · next hand =>
          rw [List.mem_singleton.1 h]
          exact Bool.eq_false_iff.2 hand

/-- Of a tree the equality is found that is found first in its conjuncts. -/
theorem equality?_eq_findSome? (e : Expr) : e.equality? = e.conjuncts.findSome? equality? := by
  induction e using byOperands with
  | node kind table column operator left right value hleft hright =>
      have hoperand : ∀ operand : Option Expr, (∀ x, operand = some x →
          x.equality? = x.conjuncts.findSome? equality?) →
            operand.bind equality? = (operand.elim [] conjuncts).findSome? equality? := by
        intro operand h
        cases operand with
        | none => rfl
        | some x => exact h x rfl
      rw [conjuncts_node]
      by_cases hand : joinsBy ["AND"] kind operator = true
      · rw [if_pos hand, equality?_node, if_pos hand, List.findSome?_append, hoperand left hleft,
          hoperand right hright]
        cases (left.elim [] conjuncts).findSome? equality? <;> rfl
      · rw [if_neg hand, List.findSome?_singleton]

/-- A leaf gives the columns that it equates. -/
theorem equality?_eq_some_iff_equates {leaf : Expr} (hleaf : leaf.isConjunction = false)
    (sides : ColumnRef × ColumnRef) : leaf.equality? = some sides ↔ leaf.Equates sides := by
  obtain ⟨kind, table, column, operator, left, right, value⟩ := leaf
  have hand : joinsBy ["AND"] kind operator = false := hleaf
  rw [equality?_node, hand, if_neg Bool.false_ne_true]
  constructor
  · intro h
    rw [Option.ite_none_right_eq_some] at h
    obtain ⟨hequal, h⟩ := h
    obtain ⟨a, hleft, h⟩ := Option.bind_eq_some_iff.1 h
    obtain ⟨l, hl, h⟩ := Option.bind_eq_some_iff.1 h
    obtain ⟨b, hright, h⟩ := Option.bind_eq_some_iff.1 h
    obtain ⟨r, hr, hsides⟩ := Option.bind_eq_some_iff.1 h
    obtain rfl := Option.some.inj hsides
    subst hleft hright
    cases operator with
    | none => simp [joinsBy] at hequal
    | some operator =>
        simp only [joinsBy, Bool.and_eq_true, beq_iff_eq, Option.any_some,
          List.any_cons, List.any_nil, Bool.or_false] at hequal
        obtain ⟨rfl, hsign⟩ := hequal
        exact .intro ((Text.equalFold_sign_iff (d := '=') (by decide) _).1 hsign) hl hr
  · intro h
    cases h with
    | @intro _ _ operator _ _ _ _ _ hsign hl hr =>
        have hequal : joinsBy ["="] binaryKind (some operator) = true := by
          simp only [joinsBy, Option.any_some, List.any_cons, List.any_nil, hsign]
          decide
        rw [if_pos hequal]
        simp [hl, hr]

/-- The equality that is found is the first one of the conjuncts. -/
theorem equality?_eq_some_iff (e : Expr) (sides : ColumnRef × ColumnRef) :
    e.equality? = some sides ↔
    ∃ front leaf back, e.conjuncts = front ++ leaf :: back ∧ leaf.Equates sides ∧
      ∀ other ∈ front, ∀ s, ¬other.Equates s := by
  rw [equality?_eq_findSome?, List.findSome?_eq_some_iff]
  refine exists_congr fun front => exists_congr fun leaf => exists_congr fun back =>
    and_congr_right fun hconjuncts => ?_
  have hleaf : ∀ x ∈ front ++ leaf :: back, ∀ s, x.equality? = some s ↔ x.Equates s := by
    intro x hx
    rw [← hconjuncts] at hx
    exact equality?_eq_some_iff_equates (not_isConjunction_of_mem hx)
  refine and_congr (hleaf leaf (by simp) sides) (forall₂_congr ?_)
  intro other hother
  rw [Option.eq_none_iff_forall_ne_some]
  exact forall_congr' fun s => not_congr (hleaf other (by simp [hother]) s)

/-- None is found if no conjunct equates two columns. -/
theorem equality?_eq_none_iff (e : Expr) :
    e.equality? = none ↔ ∀ leaf ∈ e.conjuncts, ∀ sides, ¬leaf.Equates sides := by
  rw [equality?_eq_findSome?, List.findSome?_eq_none_iff]
  refine forall₂_congr ?_
  intro leaf hmem
  rw [Option.eq_none_iff_forall_ne_some]
  exact forall_congr' fun s =>
    not_congr (equality?_eq_some_iff_equates (not_isConjunction_of_mem hmem) s)

end Expr

/-! ## Association -/

/-- What a conjunction consists of besides its operands. -/
structure Conjunction where
  table : Option String
  column : Option Json
  operator : String
  value : Option Json
  joins : Expr.joinsBy ["AND"] Expr.binaryKind (some operator) = true

/-- The conjunction of two operands, one of which may be missing. -/
def Conjunction.of (c : Conjunction) (left right : Option Expr) : Expr :=
  .node Expr.binaryKind c.table c.column (some c.operator) left right c.value

theorem Conjunction.conjuncts_of (c : Conjunction) (left right : Option Expr) :
    (c.of left right).conjuncts = left.elim [] Expr.conjuncts ++ right.elim [] Expr.conjuncts := by
  rw [of, Expr.conjuncts_node, if_pos c.joins]

/-- Trees that differ in the way their conjunctions are nested, and not in their leaves. -/
inductive Reassociated : Expr → Expr → Prop where
  | refl (e : Expr) : Reassociated e e
  | symm {e f : Expr} : Reassociated e f → Reassociated f e
  | trans {e f g : Expr} : Reassociated e f → Reassociated f g → Reassociated e g
  | rotate (c d c' d' : Conjunction) (x y z : Option Expr) :
      Reassociated (c.of (some (d.of x y)) z) (c'.of x (some (d'.of y z)))
  | left (c c' : Conjunction) {l l' : Expr} (r : Option Expr) :
      Reassociated l l' → Reassociated (c.of (some l) r) (c'.of (some l') r)
  | right (c c' : Conjunction) (l : Option Expr) {r r' : Expr} :
      Reassociated r r' → Reassociated (c.of l (some r)) (c'.of l (some r'))

namespace Reassociated

variable {e f : Expr}

theorem conjuncts_eq (h : Reassociated e f) : e.conjuncts = f.conjuncts := by
  induction h with
  | refl => rfl
  | symm _ ih => exact ih.symm
  | trans _ _ ih ih' => exact ih.trans ih'
  | rotate c d c' d' x y z =>
      simp only [Conjunction.conjuncts_of, Option.elim_some, List.append_assoc]
  | left c c' r _ ih => simp only [Conjunction.conjuncts_of, Option.elim_some, ih]
  | right c c' l _ ih => simp only [Conjunction.conjuncts_of, Option.elim_some, ih]

/-- The equality of a tree does not depend on its association. -/
theorem equality?_eq (h : Reassociated e f) : e.equality? = f.equality? := by
  rw [e.equality?_eq_findSome?, f.equality?_eq_findSome?, h.conjuncts_eq]

end Reassociated

end JoinGraph.Shape.Grammar
