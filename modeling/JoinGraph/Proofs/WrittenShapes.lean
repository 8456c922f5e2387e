import JoinGraph.Proofs.Records
import JoinGraph.Shape

/-!
# Flat and structured trees are read back

A tree in the flat or in the structured shape comes back from its written form.  In the structured
shape a condition may be any value, and null stands for no condition there.

## Main results

* `ColumnRef.decode_toJson`, `Condition.decode_toJson` — columns and comparisons.
* `Shape.Flat.Select.decode_toJson`, `Shape.Structured.Select.decode_toJson` — whole trees.
-/

namespace JoinGraph

open Json (Decoder Fields)

/-! ## Columns and comparisons -/

/-- The members of a column are read, whatever other members follow them. -/
theorem ColumnRef.reads_fields (c : ColumnRef) (rest : List (String × Json))
    (hrest : Json.find? "table" rest = none) : ColumnRef.fields.Reads (c.members ++ rest) c := by
  refine Fields.reads_seq (Fields.reads_map _ ?_) ?_
  · exact Fields.reads_optional_text (.inl (by simp [ColumnRef.members, hrest]))
  · exact Fields.reads_required (v := .string c.column) (by simp [ColumnRef.members]) rfl

theorem ColumnRef.decode_toJson (c : ColumnRef) : ColumnRef.decode c.toJson = .ok c := by
  have hread := c.reads_fields [] rfl
  rw [List.append_nil] at hread
  exact Json.Decoder.record_of_reads hread

theorem Comparison.decode_toJson (o : Comparison) : Comparison.decode o.toJson = .ok o := by
  cases o <;> rfl

theorem Condition.decode_toJson (c : Condition) (type : String) :
    Condition.decode type c.toJson = .ok c := by
  refine Json.Decoder.record_of_reads ?_
  refine Fields.reads_seq (Fields.reads_seq (Fields.reads_map _ ?_) ?_) ?_
  · exact Fields.reads_required (v := c.left.toJson) (by simp) c.left.decode_toJson
  · exact Fields.reads_required (v := c.operator.toJson) (by simp) c.operator.decode_toJson
  · exact Fields.reads_required (v := .string c.literal) (by simp) rfl

/-! ## Lists -/

/-- A list is read back if every item is. -/
theorem Json.Decoder.listOf_map {α : Type} {decoder : Decoder α} {encode : α → Json}
    (h : ∀ a, decoder (encode a) = .ok a) (items : List α) :
    Decoder.listOf decoder (.array (items.map encode)) = .ok items := by
  have hitems := Decoder.each_map encode id items fun a _ => h a
  rwa [List.map_id] at hitems

namespace Shape

/-! ## The flat shape -/

namespace Flat

theorem Column.decode_toJson (c : Column) : Column.decode c.toJson = .ok c := by
  have halias : (Fields.optional "alias" Decoder.text).Reads
      (c.ref.members ++ Json.optionalMember "alias" .string c.alias?) c.alias? :=
    Fields.reads_optional_text (.inl (by simp [ColumnRef.members]))
  have hcolumn : ColumnRef.fields.Reads
      (c.ref.members ++ Json.optionalMember "alias" .string c.alias?) c.ref :=
    c.ref.reads_fields _ (by simp)
  simp only [Column.toJson, Column.decode, Fields.ofMembers, halias 0, hcolumn 0]
  rfl

theorem Table.decode_toJson (t : Table) : Table.decode t.toJson = .ok t := by
  refine Json.Decoder.record_of_reads ?_
  refine Fields.reads_seq (Fields.reads_map _ ?_) ?_
  · exact Fields.reads_required (v := .string t.table) (by simp) rfl
  · exact Fields.reads_optional_text (.inl (by simp))

theorem Join.decode_toJson (j : Join) : Join.decode j.toJson = .ok j := by
  have hside : ∀ c : ColumnRef, Decoder.orNull ColumnRef.decode c.toJson = .ok (some c) := fun c =>
    Decoder.orNull_object c.decode_toJson
  refine Json.Decoder.record_of_reads ?_
  refine Fields.reads_seq (Fields.reads_seq (Fields.reads_seq (Fields.reads_map _ ?_) ?_) ?_) ?_
  · exact Fields.reads_required (v := .string j.table) (by simp) rfl
  · exact Fields.reads_optional_text (.inl (by simp))
  · exact Fields.reads_optional_self ColumnRef.toJson hside (.inl (by simp))
  · exact Fields.reads_optional_self ColumnRef.toJson hside (.inl (by simp))

/-- A written tree is read back. -/
theorem Select.decode_toJson (s : Select) : Select.decode s.toJson = .ok s := by
  refine Json.Decoder.record_of_reads ?_
  refine Fields.reads_seq (Fields.reads_seq (Fields.reads_seq (Fields.reads_map _ ?_) ?_) ?_) ?_
  · exact Fields.reads_withDefault (by simp) (Decoder.listOf_map Column.decode_toJson s.columns)
  · exact Fields.reads_withDefault (by simp) (Decoder.listOf_map Table.decode_toJson s.tables)
  · exact Fields.reads_withDefault (by simp) (Decoder.listOf_map Join.decode_toJson s.joins)
  · have hcondition : ∀ c : Condition,
        Decoder.orNull (Condition.decode "FallbackPredicate") c.toJson = .ok (some c) := fun c =>
      Decoder.orNull_object (c.decode_toJson "FallbackPredicate")
    exact Fields.reads_optional_self Condition.toJson hcondition (.inl (by simp))

end Flat

/-! ## The structured shape -/

namespace Structured

theorem Operand.decode_toJson (o : Operand) : Operand.decode o.toJson = .ok o := by
  refine Json.Decoder.record_of_reads ?_
  refine Fields.reads_seq (Fields.reads_seq (Fields.reads_map _ ?_) ?_) ?_
  · exact Fields.reads_optional_text (.inl (by simp))
  · exact Fields.reads_optional_text (.inr (by simp))
  · exact Fields.reads_optional_text (.inr (by simp))

theorem Column.decode_toJson (c : Column) : Column.decode c.toJson = .ok c := by
  refine Json.Decoder.record_of_reads ?_
  refine Fields.reads_seq (Fields.reads_map _ ?_) ?_
  · exact Fields.reads_required (v := c.expr.toJson) (by simp) c.expr.decode_toJson
  · exact Fields.reads_optional_text (.inr (by simp))

theorem Table.decode_toJson (t : Table) : Table.decode t.toJson = .ok t := by
  refine Json.Decoder.record_of_reads ?_
  refine Fields.reads_seq (Fields.reads_map _ ?_) ?_
  · exact Fields.reads_required (v := .string t.table) (by simp) rfl
  · exact Fields.reads_optional_text (.inr (by simp))

theorem On.decode_toJson (on : On) : On.decode on.toJson = .ok on := by
  have hside : ∀ o : Operand, Decoder.orNull Operand.decode o.toJson = .ok (some o) := fun o =>
    Decoder.orNull_object o.decode_toJson
  refine Json.Decoder.record_of_reads ?_
  refine Fields.reads_seq (Fields.reads_map _ ?_) ?_
  · exact Fields.reads_optional_self Operand.toJson hside (.inr (by simp))
  · exact Fields.reads_optional_self Operand.toJson hside (.inr (by simp))

theorem Join.decode_toJson (j : Join) : Join.decode j.toJson = .ok j := by
  refine Json.Decoder.record_of_reads ?_
  refine Fields.reads_seq (Fields.reads_seq (Fields.reads_map _ ?_) ?_) ?_
  · exact Fields.reads_required (v := .string j.table) (by simp) rfl
  · exact Fields.reads_optional_text (.inr (by simp))
  · have hon : ∀ on : On, Decoder.orNull On.decode on.toJson = .ok (some on) := fun on =>
      Decoder.orNull_object on.decode_toJson
    exact Fields.reads_optional_self On.toJson hon (.inr (by simp))

/-- A written tree is read back, but for a condition that is null. -/
theorem Select.decode_toJson (s : Select) :
    Select.decode s.toJson = .ok { s with condition := Fields.unlessNull s.condition } := by
  refine Json.Decoder.record_of_reads (Fields.reads_map _ (Fields.reads_required
    (v := .object [("result_columns", .array (s.columns.map Column.toJson)),
      ("FROM", .array (s.tables.map Table.toJson)), ("JOIN", .array (s.joins.map Join.toJson)),
      ("WHERE", s.condition.getD .null)]) (by simp) ?_))
  refine Json.Decoder.record_of_reads ?_
  refine Fields.reads_seq (Fields.reads_seq (Fields.reads_seq (Fields.reads_map _ ?_) ?_) ?_) ?_
  · exact Fields.reads_withDefault (by simp) (Decoder.listOf_map Column.decode_toJson s.columns)
  · exact Fields.reads_withDefault (by simp) (Decoder.listOf_map Table.decode_toJson s.tables)
  · exact Fields.reads_withDefault (by simp) (Decoder.listOf_map Join.decode_toJson s.joins)
  · have hnull : Fields.unlessNull (some (s.condition.getD .null)) =
        Fields.unlessNull s.condition := by
      cases s.condition <;> rfl
    rw [← hnull]
    exact Fields.reads_optional_any (by simp)

/-- A written tree is recognized. -/
theorem Select.recognize_toJson (s : Select) : Tree.recognizeJson s.toJson =
    .ok (.structured { s with condition := Fields.unlessNull s.condition }) := by
  have hroot : Tree.hasGrammarRoot s.toJson = false ∧ Tree.hasStructuredRoot s.toJson = true :=
    ⟨rfl, rfl⟩
  rw [Tree.recognizeJson, hroot.1, hroot.2, if_neg Bool.false_ne_true, if_pos rfl, Tree.readShape,
    s.decode_toJson]

end Structured

end Shape

end JoinGraph
