import JoinGraph.Proofs.JsonSpelling
import JoinGraph.Proofs.WrittenShapes
import JoinGraph.Result

/-!
# Results are read back

A result comes back from its written form: its graph with all nodes, links and aliases, and its
statement. Absent parts are left out of the written form, and so is an empty map of aliases; a
missing part is read as an absent one.  Every written form is plain, so it also comes back from
its text.

## Main results

* `Graph.decode_toJson`, `Statement.decode_toJson`, `Result.decode_toJson` — decoding undoes
  encoding.
* `Result.plain_toJson` — how deep the written form of a result is.
-/

namespace JoinGraph

open Json (Decoder Fields Plain PlainMembers)

/-! ## Graphs -/

theorem NodeKind.decode_name (k : NodeKind) : Decoder.oneOf names (.string k.name) = .ok k := by
  cases k <;> rfl

theorem LinkKind.decode_name (k : LinkKind) : LinkKind.decode (.string k.name) = .ok k := by
  cases k <;> rfl

theorem Confidence.decode_name (c : Confidence) :
    Decoder.oneOf names (.string c.name) = .ok c := by
  cases c <;> rfl

theorem JoinTarget.decode_toJson (t : JoinTarget) : JoinTarget.decode t.toJson = .ok t := by
  refine Json.Decoder.record_of_reads ?_
  refine Fields.reads_seq (Fields.reads_seq (Fields.reads_seq (Fields.reads_seq (Fields.reads_seq
    (Fields.reads_seq (Fields.reads_map _ ?_) ?_) ?_) ?_) ?_) ?_) ?_
  · exact Fields.reads_required (v := .string t.table) (by simp) rfl
  · exact Fields.reads_required (v := .string t.field) (by simp) rfl
  · exact Fields.reads_optional_text (.inl (by simp))
  · exact Fields.reads_required (v := .string t.targetTable) (by simp) rfl
  · exact Fields.reads_required (v := .string t.targetField) (by simp) rfl
  · exact Fields.reads_optional_text (.inl (by simp))
  · exact Fields.reads_required (v := .bool t.isSource) (by simp) rfl

theorem Node.decode_toJson (n : Node) : Node.decode n.toJson = .ok n := by
  have htarget : ∀ t : JoinTarget, Decoder.orNull JoinTarget.decode t.toJson = .ok (some t) :=
    fun t =>
    Decoder.orNull_object t.decode_toJson
  refine Json.Decoder.record_of_reads ?_
  refine Fields.reads_seq (Fields.reads_seq (Fields.reads_seq (Fields.reads_seq (Fields.reads_seq
    (Fields.reads_seq (Fields.reads_seq (Fields.reads_seq (Fields.reads_seq
      (Fields.reads_map _ ?_) ?_) ?_) ?_) ?_) ?_) ?_) ?_) ?_) ?_
  · exact Fields.reads_required (v := .string n.id) (by simp) rfl
  · exact Fields.reads_required (v := .string n.name) (by simp) rfl
  · exact Fields.reads_required (v := .string n.ownName) (by simp) rfl
  · exact Fields.reads_required (v := .string n.kind.name) (by simp) n.kind.decode_name
  · exact Fields.reads_optional_self .bool (fun _ => rfl) (.inl (by simp))
  · exact Fields.reads_optional_text (.inl (by simp))
  · exact Fields.reads_optional_text (.inl (by simp))
  · exact Fields.reads_optional_self .bool (fun _ => rfl) (.inl (by simp))
  · exact Fields.reads_optional_self .bool (fun _ => rfl) (.inl (by simp))
  · exact Fields.reads_optional_self JoinTarget.toJson htarget (.inl (by simp))

theorem Link.decode_toJson (l : Link) : Link.decode l.toJson = .ok l := by
  have hconfidence : ∀ c : Confidence,
      Decoder.orNull (.oneOf Confidence.names) (.string c.name) = .ok (some c) := by
    intro c
    rw [Decoder.orNull, c.decode_name]
    · rfl
    · simp
  refine Json.Decoder.record_of_reads ?_
  refine Fields.reads_seq (Fields.reads_seq (Fields.reads_seq (Fields.reads_seq (Fields.reads_seq
    (Fields.reads_seq (Fields.reads_map _ ?_) ?_) ?_) ?_) ?_) ?_) ?_
  · exact Fields.reads_required (v := .string l.source) (by simp) rfl
  · exact Fields.reads_required (v := .string l.target) (by simp) rfl
  · exact Fields.reads_required (v := .string l.kind.name) (by simp) l.kind.decode_name
  · exact Fields.reads_optional_text (.inl (by simp))
  · exact Fields.reads_optional_self .bool (fun _ => rfl) (.inl (by simp))
  · exact Fields.reads_optional_self .bool (fun _ => rfl) (.inl (by simp))
  · exact Fields.reads_optional_self (.string ·.name) hconfidence (.inl (by simp))

namespace AliasMap

theorem eq_of_entries_eq {m m' : AliasMap} (h : m.entries = m'.entries) : m = m' := by
  cases m
  cases m'
  cases h
  rfl

/-- A binding of a greater alias goes to the end. -/
private theorem insertEntry_of_greater {key table : String} {list : List (String × String)}
    (h : ∀ e ∈ list, e.1 < key) : insertEntry key table list = list ++ [(key, table)] := by
  induction list with
  | nil => rfl
  | cons e list ih =>
      obtain ⟨he, hlist⟩ := List.forall_mem_cons.1 h
      rw [insertEntry, if_neg (String.lt_asymm he), if_neg (String.ne_of_lt he), ih hlist,
        List.cons_append]

private theorem entries_foldl_insert (m : AliasMap) (list : List (String × String))
    (h : (m.entries ++ list).Pairwise fun a b => a.1 < b.1) :
    (list.foldl (fun m e => m.insert e.1 e.2) m).entries = m.entries ++ list := by
  induction list generalizing m with
  | nil => simp
  | cons e list ih =>
      have hgreater : ∀ e' ∈ m.entries, e'.1 < e.1 := fun e' he' =>
        (List.pairwise_append.1 h).2.2 e' he' e List.mem_cons_self
      have hinsert : (m.insert e.1 e.2).entries = m.entries ++ [e] :=
        insertEntry_of_greater hgreater
      rw [List.append_cons, ← hinsert] at h ⊢
      exact ih (m.insert e.1 e.2) h

/-- The bindings of a map make that map. -/
theorem ofList_entries (m : AliasMap) : ofList m.entries = m := by
  have h := entries_foldl_insert .empty m.entries m.ascending
  exact eq_of_entries_eq h

theorem decode_toJson (m : AliasMap) : AliasMap.decode m.toJson = .ok m := by
  have hentries : ∀ list : List (String × String),
      Decoder.tableOf.entries .text (list.map fun e => (e.1, .string e.2)) = .ok list := by
    intro list
    induction list with
    | nil => rfl
    | cons e list ih =>
        simp only [List.map_cons, Decoder.tableOf.entries, Decoder.text, ih]
        rfl
  rw [decode, toJson, Decoder.tableOf, hentries]
  exact congrArg Except.ok m.ofList_entries

end AliasMap

/-- A graph is read back, also where its map of aliases is left out. -/
theorem Graph.decode_toJson (g : Graph) : Graph.decode g.toJson = .ok g := by
  refine Json.Decoder.record_of_reads ?_
  refine Fields.reads_seq (Fields.reads_seq (Fields.reads_seq (Fields.reads_map _ ?_) ?_) ?_) ?_
  · exact Fields.reads_required (by simp) (Decoder.listOf_map Node.decode_toJson g.nodes)
  · exact Fields.reads_required (by simp) (Decoder.listOf_map Link.decode_toJson g.links)
  · exact Fields.reads_withDefault (v := .bool g.isDiagnostic) (by simp) rfl
  · by_cases hempty : g.aliases.isEmpty = true
    · have hnone : g.aliases = .empty := AliasMap.eq_of_entries_eq (List.isEmpty_iff.1 hempty)
      rw [hnone]
      exact Fields.reads_withDefault_of_missing (by simp [AliasMap.isEmpty, AliasMap.empty])
    · exact Fields.reads_withDefault (v := g.aliases.toJson)
        (by simp [hempty]) g.aliases.decode_toJson

/-! ## Statements -/

theorem TableRef.decode_toJson (t : TableRef) : TableRef.decode t.toJson = .ok t := by
  refine Json.Decoder.record_of_reads (Fields.reads_seq (Fields.reads_map _ ?_) ?_)
  · exact Fields.reads_required (v := .string t.name) (by simp) rfl
  · exact Fields.reads_optional_text (.inl (by simp))

theorem Join.decode_toJson (j : Join) : Join.decode j.toJson = .ok j := by
  have hside : ∀ c : ColumnRef, Decoder.orNull ColumnRef.decode c.toJson = .ok (some c) := fun c =>
    Decoder.orNull_object c.decode_toJson
  refine Json.Decoder.record_of_reads ?_
  refine Fields.reads_seq (Fields.reads_seq (Fields.reads_seq (Fields.reads_map _ ?_) ?_) ?_) ?_
  · exact Fields.reads_required (v := .string j.table) (by simp) rfl
  · exact Fields.reads_optional_text (.inl (by simp))
  · exact Fields.reads_optional_self ColumnRef.toJson hside (.inl (by simp))
  · exact Fields.reads_optional_self ColumnRef.toJson hside (.inl (by simp))

theorem ProjectedColumn.decode_toJson (p : ProjectedColumn) :
    ProjectedColumn.decode p.toJson = .ok p := by
  refine Json.Decoder.record_of_reads ?_
  refine Fields.reads_seq (Fields.reads_seq (Fields.reads_map _ ?_) ?_) ?_
  · exact Fields.reads_optional_text (.inl (by simp))
  · exact Fields.reads_required (v := .string p.column) (by simp) rfl
  · exact Fields.reads_optional_text (.inl (by simp))

theorem Statement.decode_toJson (s : Statement) : Statement.decode s.toJson = .ok s := by
  have hcondition : ∀ c : Condition,
      Decoder.orNull (Condition.decode "WhereCondition") c.toJson = .ok (some c) := fun c =>
    Decoder.orNull_object (c.decode_toJson "WhereCondition")
  refine Json.Decoder.record_of_reads ?_
  refine Fields.reads_seq (Fields.reads_seq (Fields.reads_seq (Fields.reads_map _ ?_) ?_) ?_) ?_
  · exact Fields.reads_required (by simp) (Decoder.listOf_map TableRef.decode_toJson s.tables)
  · exact Fields.reads_required (by simp) (Decoder.listOf_map Join.decode_toJson s.joins)
  · exact Fields.reads_required (by simp)
      (Decoder.listOf_map ProjectedColumn.decode_toJson s.projected)
  · exact Fields.reads_optional_self Condition.toJson hcondition (.inl (by simp))

/-! ## Results -/

theorem ParserKind.decode_name (k : ParserKind) : Decoder.oneOf names (.string k.name) = .ok k := by
  cases k <;> rfl

/-- A result is read back from its written form. -/
theorem Result.decode_toJson (r : Result) : Result.decode r.toJson = .ok r := by
  refine Json.Decoder.record_of_reads ?_
  refine Fields.reads_seq (Fields.reads_seq (Fields.reads_map _ ?_) ?_) ?_
  · exact Fields.reads_required (by simp) r.graph.decode_toJson
  · exact Fields.reads_required (by simp) r.statement.decode_toJson
  · exact Fields.reads_required (v := .string r.parser.name) (by simp) r.parser.decode_name

/-! ## Plain forms -/

section Plain

variable {depth : Nat}

theorem JoinTarget.plain_toJson (t : JoinTarget) : Plain (depth + 1) t.toJson :=
  PlainMembers.object
    (.append (.append (.append (.append (.cons "table" (.string _) (.cons "field" (.string _) .nil))
      (.optional "tableAlias" _ _ .string))
      (.cons "targetTable" (.string _) (.cons "targetField" (.string _) .nil)))
      (.optional "targetTableAlias" _ _ .string))
      (.cons "isSourceField" (.bool _) .nil))
    (by decide)

theorem Node.plain_toJson (n : Node) : Plain (depth + 2) n.toJson :=
  PlainMembers.object
    (.append (.append (.append (.append (.append (.append
      (.cons "id" (.string _) (.cons "name" (.string _) (.cons "originalName" (.string _)
        (.cons "type" (.string _) .nil))))
      (.optional "isAlias" _ _ .bool)) (.optional "aliasFor" _ _ .string))
      (.optional "table" _ _ .string)) (.optional "isResult" _ _ .bool))
      (.optional "isJoinField" _ _ .bool)) (.optional "joinTarget" _ _ JoinTarget.plain_toJson))
    (by decide)

theorem Link.plain_toJson (l : Link) : Plain (depth + 1) l.toJson :=
  PlainMembers.object
    (.append (.append (.append (.append
      (.cons "source" (.string _) (.cons "target" (.string _) (.cons "type" (.string _) .nil)))
      (.optional "condition" _ _ .string)) (.optional "isAliasLink" _ _ .bool))
      (.optional "isAliasJoin" _ _ .bool)) (.optional "confidence" _ _ fun _ => .string _))
    (by decide)

/-- No alias has two bindings. -/
theorem AliasMap.plain_toJson (m : AliasMap) : Plain (depth + 1) m.toJson := by
  refine .object ?_ (List.forall_mem_map.2 fun _ _ => .string _)
  rw [List.map_map, List.nodup_iff_pairwise_ne, List.pairwise_map]
  exact m.ascending.imp fun hlt => String.ne_of_lt hlt

theorem Graph.plain_toJson (g : Graph) : Plain (depth + 4) g.toJson :=
  PlainMembers.object
    (.append (.cons "nodes" (Json.plain_array_map Node.plain_toJson g.nodes)
      (.cons "links" (Json.plain_array_map Link.plain_toJson g.links)
        (.cons "diagnostic" (.bool _) .nil)))
      (.optional "aliases" _ _ AliasMap.plain_toJson))
    (by decide)

theorem ColumnRef.plain_toJson (c : ColumnRef) : Plain (depth + 1) c.toJson :=
  PlainMembers.object
    (.append (.optional "table" _ _ .string) (.cons "column" (.string _) .nil)) (by decide)

theorem Condition.plain_toJson (c : Condition) : Plain (depth + 2) c.toJson :=
  PlainMembers.object
    (.cons "left" c.left.plain_toJson
      (.cons "operator" (.string _) (.cons "literal" (.string _) .nil)))
    (by decide)

theorem TableRef.plain_toJson (t : TableRef) : Plain (depth + 1) t.toJson :=
  PlainMembers.object
    (.append (.cons "name" (.string _) .nil) (.optional "alias" _ _ .string)) (by decide)

theorem Join.plain_toJson (j : Join) : Plain (depth + 2) j.toJson :=
  PlainMembers.object
    (.append (.append (.append (.cons "table" (.string _) .nil) (.optional "alias" _ _ .string))
      (.optional "onLeft" _ _ ColumnRef.plain_toJson))
      (.optional "onRight" _ _ ColumnRef.plain_toJson))
    (by decide)

theorem ProjectedColumn.plain_toJson (p : ProjectedColumn) : Plain (depth + 1) p.toJson :=
  PlainMembers.object
    (.append (.append (.optional "table" _ _ .string) (.cons "column" (.string _) .nil))
      (.optional "alias" _ _ .string))
    (by decide)

theorem Statement.plain_toJson (s : Statement) : Plain (depth + 4) s.toJson :=
  PlainMembers.object
    (.append (.cons "tables" (Json.plain_array_map TableRef.plain_toJson s.tables)
      (.cons "joins" (Json.plain_array_map Join.plain_toJson s.joins)
        (.cons "projectedColumns" (Json.plain_array_map ProjectedColumn.plain_toJson s.projected)
          .nil)))
      (.optional "whereCondition" _ _ Condition.plain_toJson))
    (by decide)

/-- The written form of a result is plain, and five brackets deep. -/
theorem Result.plain_toJson (r : Result) : Plain 5 r.toJson :=
  PlainMembers.object
    (.cons "graph" r.graph.plain_toJson (.cons "statement" r.statement.plain_toJson
      (.cons "parserUsed" (.string _) .nil)))
    (by decide)

end Plain

end JoinGraph
