import JoinGraph.Proofs.Identifier
import JoinGraph.Render.Flowchart

/-!
# Identifiers in a flowchart

In a flowchart the identifier of a node is spelled with letters, digits and underscores alone.
The spelling of a character is either the character or starts with an underscore, and then it ends
at the next one.  So no spelling of a character is the beginning of another one, and what is
spelled can be told from the spelling.

## Main results

* `idCharacter_append_inj` — the first character is told from a spelling, whatever follows.
* `chartId_kind_inj` — the kind and the name of a node are told from its identifier.
* `eq_of_chartId_eq`, `chartId_spec` — so nodes keep their identifiers apart, and these have no
  other characters.
* `chartId_eq_iff` — any two texts that start with a kind of node are told apart.
-/

namespace JoinGraph.Render

/-! ## Hexadecimal digits -/

theorem exists_digit_of_mem_toDigits {b n : Nat} (hb : 1 < b) {c : Char}
    (h : c ∈ Nat.toDigits b n) :
    ∃ d < b, c = d.digitChar := by
  induction n using Nat.base_induction b hb with
  | single m hm =>
      rw [Nat.toDigits_of_lt_base hm, List.mem_singleton] at h
      exact ⟨m, hm, h⟩
  | digit m k hk hm ih =>
      rw [← Nat.toDigits_append_toDigits hb hm hk, List.mem_append, Nat.toDigits_of_lt_base hk,
        List.mem_singleton] at h
      exact h.elim ih fun h => ⟨k, hk, h⟩

/-- The number of a hexadecimal digit. -/
def hexValue (c : Char) : Nat := if c.isDigit then c.toNat - '0'.toNat else c.toNat - 'a'.toNat + 10

/-- A number is read from its hexadecimal digits. -/
theorem foldl_toDigits_sixteen (n : Nat) :
    (Nat.toDigits 16 n).foldl (fun value c => 16 * value + hexValue c) 0 = n := by
  have hdigit : ∀ d < 16, hexValue d.digitChar = d := by decide
  induction n using Nat.base_induction 16 (by decide) with
  | single m hm => simp [Nat.toDigits_of_lt_base hm, hdigit m hm]
  | digit m k hk hm ih =>
      rw [← Nat.toDigits_append_toDigits (by decide) hm hk, List.foldl_append, ih,
        Nat.toDigits_of_lt_base hk]
      simp [hdigit k hk]

theorem toDigits_sixteen_inj {m n : Nat} (h : Nat.toDigits 16 m = Nat.toDigits 16 n) : m = n := by
  rw [← foldl_toDigits_sixteen m, h, foldl_toDigits_sixteen]

/-! ## Spellings -/

/-- A character that may stand in an identifier. -/
def isIdPart (c : Char) : Bool := Text.isAsciiLetter c || Text.isAsciiDigit c || c == '_'

/-- The spelling of a character that is neither letter, digit nor underscore. -/
theorem hexDigits_spec (c : Char) :
    '_' ∉ Nat.toDigits 16 c.toNat ∧ ∀ d ∈ Nat.toDigits 16 c.toNat, isIdPart d = true := by
  have hdigits : ∀ d < 16, d.digitChar ≠ '_' ∧ isIdPart d.digitChar = true := by decide
  refine ⟨fun h => ?_, fun d hd => ?_⟩
  · obtain ⟨d, hd, heq⟩ := exists_digit_of_mem_toDigits (by decide) h
    exact (hdigits d hd).1 heq.symm
  · obtain ⟨d, hlt, rfl⟩ := exists_digit_of_mem_toDigits (by decide) hd
    exact (hdigits d hlt).2

/-- The three spellings. -/
theorem idCharacter_cases (c : Char) :
    (idCharacter c = [c] ∧ isIdPart c = true ∧ c ≠ '_') ∨ (idCharacter c = ['_', '_'] ∧ c = '_') ∨
      idCharacter c = '_' :: (Nat.toDigits 16 c.toNat ++ ['_']) := by
  unfold idCharacter
  split
  · next h =>
      refine .inl ⟨rfl, by simp only [isIdPart, h, Bool.true_or], ?_⟩
      rintro rfl
      exact absurd h (by decide)
  · split
    · next h => exact .inr (.inl ⟨rfl, h⟩)
    · exact .inr (.inr rfl)

theorem isIdPart_of_mem_idCharacter {c d : Char} (h : d ∈ idCharacter c) : isIdPart d = true := by
  rcases idCharacter_cases c with ⟨heq, hpart, -⟩ | ⟨heq, -⟩ | heq
  · rw [heq, List.mem_singleton] at h
    exact h ▸ hpart
  · rw [heq, List.mem_cons, List.mem_singleton] at h
    rcases h with rfl | rfl <;> rfl
  · rw [heq, List.mem_cons, List.mem_append, List.mem_singleton] at h
    rcases h with rfl | h | rfl
    · rfl
    · exact (hexDigits_spec c).2 d h
    · rfl

/-- The first character is told from a spelling, whatever follows. -/
theorem idCharacter_append_inj {a b : Char} {s t : List Char}
    (h : idCharacter a ++ s = idCharacter b ++ t) : a = b ∧ s = t := by
  have hnone := fun c => (hexDigits_spec c).1
  -- No hexadecimal spelling goes on with a second underscore.
  have hhex : ∀ (c : Char) (r r' : List Char), '_' :: r ≠ Nat.toDigits 16 c.toNat ++ '_' :: r' := by
    intro c r r' heq
    obtain ⟨d, ds, hd⟩ := List.exists_cons_of_ne_nil (Nat.toDigits_ne_nil (n := c.toNat) (b := 16))
    rw [hd, List.cons_append, List.cons.injEq] at heq
    exact hnone c (hd ▸ heq.1 ▸ List.mem_cons_self)
  rcases idCharacter_cases a with ⟨ha, -, hne⟩ | ⟨ha, rfl⟩ | ha <;>
    rcases idCharacter_cases b with ⟨hb, -, hne'⟩ | ⟨hb, rfl⟩ | hb <;>
    simp only [ha, hb, List.cons_append, List.nil_append, List.append_assoc, List.cons.injEq,
      true_and] at h
  · exact h
  · exact absurd h.1 hne
  · exact absurd h.1 hne
  · exact absurd h.1.symm hne'
  · exact ⟨rfl, h⟩
  · exact absurd h (hhex b _ _)
  · exact absurd h.1.symm hne'
  · exact absurd h.symm (hhex a _ _)
  · obtain ⟨hdigits, hrest⟩ := Text.append_separator_inj (hnone a) (hnone b) h
    exact ⟨Char.toNat_inj.1 (toDigits_sixteen_inj hdigits), hrest⟩

/-- A name is told from its spelling. -/
theorem spelling_inj {s t : List Char} (h : s.flatMap idCharacter = t.flatMap idCharacter) :
    s = t := by
  have hne : ∀ c, idCharacter c ≠ [] := by
    intro c
    rcases idCharacter_cases c with ⟨hc, -⟩ | ⟨hc, -⟩ | hc <;> simp [hc]
  induction s generalizing t with
  | nil =>
      cases t with
      | nil => rfl
      | cons b t => exact absurd (List.append_eq_nil_iff.1 h.symm).1 (hne b)
  | cons a s ih =>
      cases t with
      | nil => exact absurd (List.append_eq_nil_iff.1 h).1 (hne a)
      | cons b t =>
          rw [List.flatMap_cons, List.flatMap_cons] at h
          obtain ⟨rfl, hrest⟩ := idCharacter_append_inj h
          rw [ih hrest]

/-! ## Identifiers -/

/-- The kind of a node stands in front of the first colon, and the name behind it. -/
theorem toList_chartId {kind : List Char} (hkind : ':' ∉ kind) (name : List Char) :
    (chartId (String.ofList (kind ++ ':' :: name))).toList =
      kind ++ '_' :: name.flatMap idCharacter := by
  simp [chartId, Text.splitOnce?_append hkind]

/-- Kind and name are told from an identifier, if the kind has no underscore. -/
theorem chartId_kind_inj {kind kind' name name' : List Char} (hk : ':' ∉ kind ∧ '_' ∉ kind)
    (hk' : ':' ∉ kind' ∧ '_' ∉ kind')
    (h : chartId (String.ofList (kind ++ ':' :: name)) =
      chartId (String.ofList (kind' ++ ':' :: name'))) :
    kind = kind' ∧ name = name' := by
  have hchars := congrArg String.toList h
  rw [toList_chartId hk.1, toList_chartId hk'.1] at hchars
  obtain ⟨hkind, hname⟩ := Text.append_separator_inj hk.2 hk'.2 hchars
  exact ⟨hkind, spelling_inj hname⟩

private theorem kind_plain (kind : NodeKind) : ':' ∉ kind.name.toList ∧ '_' ∉ kind.name.toList := by
  cases kind <;> decide

/-- Nodes with different identifiers have different identifiers in a flowchart. -/
theorem eq_of_chartId_eq {a b : String} (ha : IsNodeId a) (hb : IsNodeId b)
    (h : chartId a = chartId b) :
    a = b := by
  obtain ⟨kind, name, rfl⟩ := ha
  obtain ⟨kind', name', rfl⟩ := hb
  obtain ⟨hkind, hname⟩ := chartId_kind_inj (kind_plain kind) (kind_plain kind') h
  rw [hkind, hname]

/-- What an identifier in a flowchart is made of; it has an underscore behind the kind. -/
theorem chartId_spec {id : String} (h : IsNodeId id) :
    (∀ c ∈ (chartId id).toList, isIdPart c = true) ∧ '_' ∈ (chartId id).toList := by
  obtain ⟨kind, name, rfl⟩ := h
  have hkind : ∀ c ∈ kind.name.toList, isIdPart c = true :=
    List.all_eq_true.1 (by cases kind <;> rfl)
  rw [toList_chartId (kind_plain kind).1]
  refine ⟨fun c hc => ?_, List.mem_append_right _ List.mem_cons_self⟩
  rw [List.mem_append, List.mem_cons, List.mem_flatMap] at hc
  rcases hc with hc | rfl | ⟨d, -, hc⟩
  · exact hkind c hc
  · rfl
  · exact isIdPart_of_mem_idCharacter hc

/-- What starts with the name of a kind and a colon is the identifier of a node. -/
theorem isNodeId_of_isPrefixOf {id : String}
    (h : "table:".toList <+: id.toList ∨ "field:".toList <+: id.toList) : IsNodeId id := by
  rcases h with ⟨name, hname⟩ | ⟨name, hname⟩
  · exact ⟨.table, name, String.ext (by simp [← hname, NodeKind.name])⟩
  · exact ⟨.field, name, String.ext (by simp [← hname, NodeKind.name])⟩

/-- Texts that start with a kind of node, and go on with anything, are spelled alike only if they
are the same. -/
theorem chartId_eq_iff {a b : String}
    (ha : "table:".toList <+: a.toList ∨ "field:".toList <+: a.toList)
    (hb : "table:".toList <+: b.toList ∨ "field:".toList <+: b.toList) :
    chartId a = chartId b ↔ a = b :=
  ⟨eq_of_chartId_eq (isNodeId_of_isPrefixOf ha) (isNodeId_of_isPrefixOf hb), congrArg chartId⟩

/-- A name that looks like the spelling of another one is spelled in another way. -/
theorem chartId_eq_iff_escaped :
    ("table:".toList <+: "table:a.b".toList ∨ "field:".toList <+: "table:a.b".toList) ∧
      ("table:".toList <+: "table:a_2e_b".toList ∨ "field:".toList <+: "table:a_2e_b".toList) ∧
      chartId "table:a.b" = "table_a_2e_b" ∧ chartId "table:a_2e_b" ≠ "table_a_2e_b" := by
  have ha : "table:".toList <+: "table:a.b".toList := by decide
  have hb : "table:".toList <+: "table:a_2e_b".toList := by decide
  have hspelled : chartId "table:a.b" = "table_a_2e_b" := by decide
  refine ⟨.inl ha, .inl hb, hspelled, fun h => ?_⟩
  exact absurd ((chartId_eq_iff (.inl ha) (.inl hb)).1 (hspelled.trans h.symm)) (by decide)

end JoinGraph.Render
