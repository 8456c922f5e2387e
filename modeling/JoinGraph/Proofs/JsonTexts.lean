import JoinGraph.Json.Typed
import JoinGraph.Proofs.JsonSpelling

/-!
# Texts are read back

A reader reads a value if it takes any text of the value off any text that goes on behind it.  The
reader of values reads every plain value in this sense, and a reader of records reads an object if
its fields read the members, one after the other.

## Main results

* `Reader.reads_value`, `read_of_hasText` — a plain value is read back from each of its texts.
* `Reader.reads_record` — a record is read off the text of an object.
* `Reader.run_of_hasText` — a text that holds a value, and nothing else.
-/

namespace JoinGraph.Json

namespace Reader

variable {α β σ : Type}

/-- The reader makes `a` of each text of the value, whatever stands behind it. -/
def Reads (r : Reader α) (v : Json) (a : α) : Prop :=
  ∀ ⦃before text : List Char⦄ (rest : List Char), IsSpace before → Spells text v →
    Runs r (before ++ (text ++ rest)) a rest

theorem Reads.runs {r : Reader α} {v : Json} {a : α} (h : Reads r v a) {text : List Char}
    (htext : Spells text v) (rest : List Char) : Runs r (text ++ rest) a rest :=
  h rest isSpace_nil htext

/-- What is read may be put to use. -/
theorem Reads.map {r : Reader α} {v : Json} {a : α} (h : Reads r v a) (f : α → β) :
    Reads (do return f (← r)) v (f a) :=
  fun _ _ rest hbefore htext => runs_bind (h rest hbefore htext) (runs_pure _ rest)

/-- A value is read off a text that has nothing else but white space. -/
theorem run_of_hasText {r : Reader α} {v : Json} {a : α} {s : String} (hr : Reads r v a)
    (h : v.HasText s) : r.run s = .ok a := by
  obtain ⟨before, text, after, hbefore, htext, hafter, hs⟩ := h
  have hruns : Runs (do let a ← r; textEnd; return a) s.toList a [] := by
    rw [hs]
    exact runs_bind (hr after hbefore htext) (runs_bind (runs_textEnd hafter) (runs_pure a []))
  obtain ⟨place, hplace⟩ := hruns .start
  rw [Reader.run, Cursor.start, hplace]

/-! ## Items -/

section Items

variable {item : Reader Json} {items : List SpelledItem} {before space : List Char}

/-- The items of an array, or those behind the first, up to the bracket. -/
theorem runs_items (hspaced : ∀ i ∈ items, i.IsSpaced)
    (hspells : ∀ i ∈ items, Spells i.text i.value)
    (hreads : ∀ i ∈ items, Reads item i.value i.value)
    (hbefore : IsSpace before) (hspace : IsSpace space) (rest : List Char)
    (first : Bool) (fuel : Nat) (hfuel : items.length < fuel) : Runs (Reader.items item fuel first)
      (before ++ (listed first (items.map SpelledItem.chars) ++ (space ++ ']' :: rest)))
      (items.map SpelledItem.value) (']' :: rest) := by
  induction items generalizing before first fuel with
  | nil =>
      obtain ⟨fuel, rfl⟩ := Nat.exists_eq_add_one_of_ne_zero (Nat.ne_zero_of_lt hfuel)
      rw [List.map_nil, listed, List.nil_append, ← List.append_assoc]
      exact runs_bind (runs_nextItem_end (hbefore.append hspace) first) (runs_pure [] _)
  | cons i items ih =>
      obtain ⟨fuel, rfl⟩ := Nat.exists_eq_add_one_of_ne_zero (Nat.ne_zero_of_lt hfuel)
      obtain ⟨hi, hspaced⟩ := List.forall_mem_cons.1 hspaced
      obtain ⟨htext, hspells⟩ := List.forall_mem_cons.1 hspells
      obtain ⟨hread, hreads⟩ := List.forall_mem_cons.1 hreads
      rw [List.map_cons, listed, List.append_assoc, List.append_assoc, SpelledItem.chars_append]
      exact runs_bind
        (runs_nextItem hbefore hi.before first ((beginsItem_of_spells htext).append _))
        (runs_bind (hread.runs htext _)
          (runs_bind (ih hspaced hspells hreads hi.after false fuel (by simpa using hfuel))
            (runs_pure _ _)))

end Items

/-! ## Members -/

private theorem setMember_of_new {name : String} {members : List (String × Json)} (v : Json)
    (h : name ∉ members.map (·.1)) : setMember name v members = members ++ [(name, v)] := by
  induction members with
  | nil => rfl
  | cons m members ih =>
      rw [List.map_cons, List.mem_cons, not_or] at h
      rw [setMember, if_neg (Ne.symm h.1), ih h.2, List.cons_append]

section Members

variable {members : List SpelledMember} {before space : List Char}

/-- The members of an object, or those behind the first, up to the brace. -/
theorem runs_members {item : Reader Json} (hspaced : ∀ m ∈ members, m.IsSpaced)
    (hspells : ∀ m ∈ members, Spells m.text m.value)
    (hreads : ∀ m ∈ members, Reads item m.value m.value) (hbefore : IsSpace before)
    (hspace : IsSpace space) (rest : List Char) (first : Bool) (fuel : Nat)
    (hfuel : members.length < fuel) (taken : List (String × Json))
    (hnames : ((taken ++ members.map SpelledMember.member).map (·.1)).Nodup) :
    Runs (Reader.members item fuel first taken)
      (before ++ (listed first (members.map SpelledMember.chars) ++ (space ++ '\x7d' :: rest)))
      (taken ++ members.map SpelledMember.member) ('\x7d' :: rest) := by
  induction members generalizing before first fuel taken with
  | nil =>
      obtain ⟨fuel, rfl⟩ := Nat.exists_eq_add_one_of_ne_zero (Nat.ne_zero_of_lt hfuel)
      rw [List.map_nil, List.map_nil, listed, List.nil_append, ← List.append_assoc, List.append_nil]
      exact runs_bind (runs_nextName_end (hbefore.append hspace) first) (runs_pure taken _)
  | cons m members ih =>
      obtain ⟨fuel, rfl⟩ := Nat.exists_eq_add_one_of_ne_zero (Nat.ne_zero_of_lt hfuel)
      obtain ⟨hm, hspaced⟩ := List.forall_mem_cons.1 hspaced
      obtain ⟨htext, hspells⟩ := List.forall_mem_cons.1 hspells
      obtain ⟨hread, hreads⟩ := List.forall_mem_cons.1 hreads
      have hnew : setMember m.name m.value taken = taken ++ [m.member] := by
        refine setMember_of_new m.value fun hmem => ?_
        rw [List.map_append, List.nodup_append] at hnames
        exact hnames.2.2 _ hmem _ (by simp [SpelledMember.member]) rfl
      rw [List.map_cons, List.append_cons] at hnames
      have hmore := ih hspaced hspells hreads hm.after false fuel (by simpa using hfuel) _ hnames
      rw [← hnew] at hmore
      rw [List.map_cons, listed, List.append_assoc, List.append_assoc, SpelledMember.chars_append,
        List.map_cons, List.append_cons taken, ← hnew]
      exact runs_bind (runs_nextName hbefore hm.beforeName first m.name _)
        (runs_bind (runs_colon hm.afterName) (runs_bind (hread _ hm.before htext) hmore))

/-! ## Records -/

/-- Read one after the other, the members lead from one state of a record to another.  Each is
known and was not read before. -/
inductive Collects (fields : List (TextField σ)) : σ → List (String × Json) → σ → Prop
  | nil (state : σ) : Collects fields state [] state
  | cons {state final : σ} (state' : σ) {name : String} {v : Json} {members : List (String × Json)}
      {f : TextField σ} (hname : fields.find? (·.name == name) = some f)
      (hnew : f.isSet state = false) (hreads : Reads (f.read state) v state')
      (hmore : Collects fields state' members final) :
      Collects fields state ((name, v) :: members) final

variable {fields : List (TextField σ)} {state state' final : σ}

theorem Collects.append {first second : List (String × Json)}
    (h : Collects fields state first state')
    (h' : Collects fields state' second final) : Collects fields state (first ++ second) final := by
  induction h with
  | nil => exact h'
  | cons state' hname hnew hreads _ ih => exact .cons state' hname hnew hreads (ih h')

/-- A member that may be left out, and then changes nothing. -/
theorem Collects.optional (state' : σ) {name : String} {f : TextField σ} {encode : α → Json}
    {a : Option α} (hname : fields.find? (·.name == name) = some f) (hnew : f.isSet state = false)
    (hnone : a = none → state' = state)
    (hsome : ∀ x, a = some x → Reads (f.read state) (encode x) state') :
    Collects fields state (optionalMember name encode a) state' := by
  cases a with
  | none =>
      rw [hnone rfl]
      exact .nil state
  | some x => exact .cons state' hname hnew (hsome x rfl) (.nil state')

private theorem runs_recordMembers (hspaced : ∀ m ∈ members, m.IsSpaced)
    (hspells : ∀ m ∈ members, Spells m.text m.value)
    (hcollects : Collects fields state (members.map SpelledMember.member) final)
    (hset : (fields.find? fun f => f.isRequired && !f.isSet final) = none)
    (hbefore : IsSpace before)
    (hspace : IsSpace space) (rest : List Char) (first : Bool) (fuel : Nat)
    (hfuel : members.length < fuel) : Runs (recordMembers fields fuel first state)
      (before ++ (listed first (members.map SpelledMember.chars) ++ (space ++ '\x7d' :: rest)))
      final rest := by
  induction members generalizing before first fuel state with
  | nil =>
      obtain ⟨fuel, rfl⟩ := Nat.exists_eq_add_one_of_ne_zero (Nat.ne_zero_of_lt hfuel)
      cases hcollects
      rw [List.map_nil, listed, List.nil_append, ← List.append_assoc]
      refine runs_bind (runs_nextName_end (hbefore.append hspace) first) ?_
      rw [hset]
      exact runs_skip_bind (runs_pure _ _)
  | cons m members ih =>
      obtain ⟨fuel, rfl⟩ := Nat.exists_eq_add_one_of_ne_zero (Nat.ne_zero_of_lt hfuel)
      obtain ⟨hm, hspaced⟩ := List.forall_mem_cons.1 hspaced
      obtain ⟨htext, hspells⟩ := List.forall_mem_cons.1 hspells
      rw [List.map_cons, SpelledMember.member] at hcollects
      cases hcollects with
      | cons _ hknown hnew hread hrest =>
          rw [List.map_cons, listed, List.append_assoc, List.append_assoc,
            SpelledMember.chars_append]
          refine runs_bind (runs_nextName hbefore hm.beforeName first m.name _) ?_
          simp only [hknown, hnew, Bool.false_eq_true, if_false]
          exact runs_bind (runs_colon hm.afterName) (runs_bind (hread _ hm.before htext)
            (ih hspaced hspells hrest hm.after false fuel (by simpa using hfuel)))

end Members

/-- Members that lead to a record in which nothing is missing are read as that record. -/
theorem reads_record {fields : List (TextField σ)} {members : List (String × Json)}
    {start final : σ} (type : String) (hcollects : Collects fields start members final)
    (hset : (fields.find? fun f => f.isRequired && !f.isSet final) = none) :
    Reads (record type fields start) (.object members) final := by
  intro before text rest hbefore htext
  cases htext with
  | @object spelled space hspaced hspace hspells =>
      refine runs_skipSpace_bind hbefore (by decide) (runs_skip_bind (runs_get fun place => ?_))
      have hfuel := length_lt_closed (spelled.map SpelledMember.chars) space '\x7d' rest
      rw [List.length_map] at hfuel
      have hruns := runs_recordMembers hspaced hspells hcollects hset isSpace_nil hspace rest true _
        hfuel
      simpa using hruns

/-! ## Values -/

section Values

variable {room : Nat}

private theorem reads_value_null : Reads (value (room + 1)) .null .null := by
  intro before text rest hbefore htext
  cases htext
  exact runs_skipSpace_bind hbefore (by decide)
    (runs_skip_bind (runs_word_pure ['u', 'l', 'l'] rest _))

private theorem reads_value_bool (b : Bool) : Reads (value (room + 1)) (.bool b) (.bool b) := by
  intro before text rest hbefore htext
  cases htext with
  | true =>
      exact runs_skipSpace_bind hbefore (by decide)
        (runs_skip_bind (runs_word_pure ['r', 'u', 'e'] rest _))
  | false =>
      exact runs_skipSpace_bind hbefore (by decide)
        (runs_skip_bind (runs_word_pure ['a', 'l', 's', 'e'] rest _))

private theorem reads_value_string (s : String) :
    Reads (value (room + 1)) (.string s) (.string s) := by
  intro before text rest hbefore htext
  cases htext
  rw [quoteChars_append]
  exact runs_skipSpace_bind hbefore (by decide)
    (runs_skip_bind (runs_bind (runs_string s rest) (runs_pure _ _)))

private theorem reads_value_array {items : List Json} (hroom : room ≠ 0)
    (hitems : ∀ v ∈ items, Reads (value room) v v) :
    Reads (value (room + 1)) (.array items) (.array items) := by
  intro before text rest hbefore htext
  cases htext with
  | @array spelled space hspaced hspace hspells =>
      have hfuel := length_lt_closed (spelled.map SpelledItem.chars) space ']' rest
      rw [List.length_map] at hfuel
      have hruns :=
        runs_items hspaced hspells (List.forall_mem_map.1 hitems) isSpace_nil hspace rest
        true _ hfuel
      rw [List.cons_append, List.append_assoc, List.append_assoc]
      refine runs_skipSpace_bind hbefore (by decide) ?_
      simp only [hroom, if_false]
      exact runs_skip_bind (runs_get fun place =>
        runs_bind hruns (runs_skip_bind (runs_pure _ rest)))

private theorem reads_value_object {members : List (String × Json)} (hroom : room ≠ 0)
    (hnames : (members.map (·.1)).Nodup) (hmembers : ∀ m ∈ members, Reads (value room) m.2 m.2) :
    Reads (value (room + 1)) (.object members) (.object members) := by
  intro before text rest hbefore htext
  cases htext with
  | @object spelled space hspaced hspace hspells =>
      have hfuel := length_lt_closed (spelled.map SpelledMember.chars) space '\x7d' rest
      rw [List.length_map] at hfuel
      have hruns := runs_members hspaced hspells (List.forall_mem_map.1 hmembers) isSpace_nil hspace
        rest true _ hfuel [] hnames
      rw [List.cons_append, List.append_assoc, List.append_assoc]
      refine runs_skipSpace_bind hbefore (by decide) ?_
      simp only [hroom, if_false]
      exact runs_skip_bind (runs_get fun place =>
        runs_bind hruns (runs_skip_bind (runs_pure _ rest)))

/-- The reader of values reads plain values that are not too deep. -/
theorem reads_value {depth : Nat} {v : Json} (h : Plain depth v) (hroom : depth < room) :
    Reads (value room) v v := by
  obtain ⟨room, rfl⟩ := Nat.exists_eq_add_one_of_ne_zero (Nat.ne_zero_of_lt hroom)
  induction h generalizing room with
  | null => exact reads_value_null
  | bool b => exact reads_value_bool b
  | string s => exact reads_value_string s
  | array _ ih =>
      have hroom := Nat.lt_of_succ_lt_succ hroom
      obtain ⟨room, rfl⟩ := Nat.exists_eq_add_one_of_ne_zero (Nat.ne_zero_of_lt hroom)
      exact reads_value_array room.succ_ne_zero fun v hv => ih v hv room hroom
  | object hnames _ ih =>
      have hroom := Nat.lt_of_succ_lt_succ hroom
      obtain ⟨room, rfl⟩ := Nat.exists_eq_add_one_of_ne_zero (Nat.ne_zero_of_lt hroom)
      exact reads_value_object room.succ_ne_zero hnames fun m hm => ih m hm room hroom

end Values

/-! ## Typed values -/

theorem reads_stringCalled (expected s : String) : Reads (stringCalled expected) (.string s) s := by
  intro before text rest hbefore htext
  cases htext
  rw [quoteChars_append]
  exact runs_skipSpace_bind hbefore (by decide) (runs_skip_bind (runs_string s rest))

theorem reads_flag (b : Bool) : Reads flag (.bool b) b := by
  intro before text rest hbefore htext
  cases htext with
  | true =>
      exact runs_skipSpace_bind hbefore (by decide)
        (runs_skip_bind (runs_word_pure ['r', 'u', 'e'] rest _))
  | false =>
      exact runs_skipSpace_bind hbefore (by decide)
        (runs_skip_bind (runs_word_pure ['a', 'l', 's', 'e'] rest _))

/-- What is no null is read where null may stand. -/
theorem reads_orNull {r : Reader α} {v : Json} {a : α} (h : Reads r v a) (hv : v ≠ .null) :
    Reads (orNull r) v (some a) := by
  intro before text rest hbefore htext
  obtain ⟨c, tail, hhead, hspace, -⟩ := beginsItem_of_spells htext
  have hnull := head?_ne_of_spells htext hv
  have hruns : Runs (do return some (← r)) _ (some a) rest :=
    runs_bind (h.runs htext rest) (runs_pure _ rest)
  subst hhead
  refine runs_skipSpace_bind hbefore hspace ?_
  split
  · next heq => exact absurd heq hnull
  · exact hruns

/-- A name that is known is read as what it means. -/
theorem reads_oneOf {names : List (String × α)} {name : String} {a : α}
    (h : Decoder.known names name = .ok a) : Reads (oneOf names) (.string name) a := by
  intro before text rest hbefore htext
  cases htext
  have hname := (reads_stringCalled "variant identifier" name).runs (.string name) rest
  rw [quoteChars_append] at hname ⊢
  refine runs_skipSpace_bind hbefore (by decide) (runs_bind hname ?_)
  rw [h]
  exact runs_pure a rest

end Reader

/-- A plain value is read back from each of its texts. -/
theorem read_of_hasText {depth : Nat} {v : Json} {s : String} (h : Plain depth v)
    (hdepth : depth < maxDepth) (hs : v.HasText s) : read s = .ok v :=
  Reader.run_of_hasText (Reader.reads_value h hdepth) hs

end JoinGraph.Json
