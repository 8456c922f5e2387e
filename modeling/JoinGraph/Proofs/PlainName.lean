import JoinGraph.Proofs.PlainToken

/-!
# Reading names

What the readers make of a name in any spelling: the delimiters go, schemas in front are passed
over, and the last one or two names remain.

## Main results

* `Spelled.columnOf?` — a column is read as what it names.
* `Spelled.isTablePath`, `Spelled.lastSegment` — a table is accepted under its last name.
* `Spelled.isPlainName` — an alias is accepted.
-/

namespace JoinGraph.Plain

open Text (isBlank asciiLower)

/-- A clause keyword has letters only. -/
theorem isIdentifierPart_of_isClauseKeyword {s : List Char}
    (h : Name.isClauseKeyword (String.ofList s) = true) : ∀ c ∈ s, isIdentifierPart c = true := by
  have hletters : ∀ word ∈ Name.clauseKeywords,
      (word.toList.map asciiLower).all Text.isLowerLetter = true := by decide +kernel
  obtain ⟨word, hword, hequal⟩ := List.any_eq_true.1 h
  rw [Text.equalFold, String.toList_ofList, beq_iff_eq] at hequal
  intro c hc
  exact isIdentifierPart_of_asciiLower
    (List.all_eq_true.1 (hletters word hword) _ (hequal ▸ List.mem_map_of_mem hc))

section Names

variable {n : Identifier} {names : List Identifier} {s : List Char}

/-! ## One name -/

theorem Identifier.filter_chars (n : Identifier) :
    n.chars.filter (fun c => !Name.isDelimiter c) = n.chars := by
  refine List.filter_eq_self.2 fun c hc => ?_
  simp [(n.identifierPart hc).bare]

/-- Without its delimiters a name is the name. -/
theorem Wrapped.filter (h : Wrapped n s) : s.filter (fun c => !Name.isDelimiter c) = n.chars := by
  have hdelimiter : ∀ {c : Char}, Name.isDelimiter c = true →
      (c :: (n.chars ++ [c])).filter (fun c => !Name.isDelimiter c) = n.chars := fun hc => by
    simp [hc, n.filter_chars]
  have hopen : Name.isDelimiter '[' = true := rfl
  have hclose : Name.isDelimiter ']' = true := rfl
  cases h with
  | bare => exact n.filter_chars
  | bracketed => simp [hopen, hclose, n.filter_chars]
  | quoted hquote => exact hdelimiter (by rcases hquote with rfl | rfl <;> decide)

theorem Identifier.trimChars_chars (n : Identifier) : Text.trimChars n.chars = n.chars :=
  Text.trimChars_of_no_blank fun _ hc => (plainPart_of_isTokenPart (n.isTokenPart_of_mem hc)).blank

theorem Wrapped.bareChars (h : Wrapped n s) : Name.bareChars s = n.chars := by
  rw [Name.bareChars, h.filter, n.trimChars_chars]

theorem Wrapped.dot_not_mem (h : Wrapped n s) : '.' ∉ s := by
  intro hmem
  have hdot : '.' ∈ n.chars := h.filter ▸ List.mem_filter.2 ⟨hmem, by decide⟩
  exact (n.identifierPart hdot).ne.1 rfl

/-- A name in any spelling starts with no digit and no dot. -/
theorem Wrapped.start (h : Wrapped n s) (rest : List Char) :
    (s ++ rest).head?.any (fun c => Text.isAsciiDigit c || c == '.') = false := by
  cases h with
  | bare =>
      obtain ⟨c, chars, hchars⟩ := List.exists_cons_of_ne_nil n.chars_ne_nil
      have hstart : Text.isAsciiDigit c = false := by
        have hstart := n.start
        rw [show n.text.toList = c :: chars from hchars] at hstart
        simpa using hstart
      have hdot : c ≠ '.' := (n.identifierPart (hchars ▸ List.mem_cons_self)).ne.1
      simp [hchars, hstart, hdot]
  | bracketed => rfl
  | quoted hquote => rcases hquote with rfl | rfl <;> rfl

theorem Wrapped.not_clauseKeyword (h : Wrapped n s) :
    Name.isClauseKeyword (String.ofList s) = false := by
  have hmem : ∀ {c : Char}, c ∈ s → isIdentifierPart c = false →
      Name.isClauseKeyword (String.ofList s) = false := fun hc hpart => by
    refine Bool.eq_false_iff.2 fun hkeyword => ?_
    simp [isIdentifierPart_of_isClauseKeyword hkeyword _ hc] at hpart
  cases h with
  | bare => simpa [Identifier.chars] using n.not_clauseKeyword
  | bracketed => exact hmem List.mem_cons_self (by decide)
  | quoted hquote => exact hmem List.mem_cons_self (by rcases hquote with rfl | rfl <;> decide)

/-- An alias is a plain name. -/
theorem Wrapped.isPlainName (h : Wrapped n s) : Pattern.isPlainName s = true := by
  have hname : ∀ c ∈ n.chars, Pattern.isNamePart c = true := fun c hc => (n.identifierPart hc).name
  simp only [Pattern.isPlainName, h.bareChars, Bool.and_eq_true, Bool.not_eq_true',
    List.isEmpty_eq_false_iff, List.all_eq_true]
  exact ⟨⟨n.chars_ne_nil, by simpa [Identifier.chars] using n.not_clauseKeyword⟩, hname⟩

/-! ## Dotted names -/

/-- Cut at its dots, a dotted name gives its names. -/
theorem Dotted.splitChars (h : Dotted names s) :
    (Text.splitChars '.' s).map Name.bareChars = names.map Identifier.chars := by
  induction h with
  | one h => rw [Text.splitChars_of_not_mem h.dot_not_mem, List.map_singleton, h.bareChars]; rfl
  | cons h _ ih =>
      rw [Text.splitChars_append h.dot_not_mem, List.map_cons, h.bareChars, ih, List.map_cons]

theorem Dotted.not_clauseKeyword (h : Dotted names s) :
    Name.isClauseKeyword (String.ofList s) = false := by
  cases h with
  | one h => exact h.not_clauseKeyword
  | cons =>
      refine Bool.eq_false_iff.2 fun hkeyword => ?_
      exact absurd (isIdentifierPart_of_isClauseKeyword hkeyword '.' (by simp)) (by decide)

theorem Dotted.start (h : Dotted names s) :
    s.head?.any (fun c => Text.isAsciiDigit c || c == '.') = false := by
  cases h with
  | one h => simpa using h.start []
  | cons h => exact h.start _

theorem Dotted.isColumnPath (h : Dotted names s) : Pattern.isColumnPath s = true := by
  simp only [Pattern.isColumnPath, Bool.and_eq_true, Bool.not_eq_true', List.isEmpty_eq_false_iff,
    List.all_eq_true]
  exact ⟨⟨⟨h.ne_nil, h.not_clauseKeyword⟩, h.start⟩, fun c hc =>
    (plainPart_of_isTokenPart (h.parts hc)).path⟩

theorem Dotted.trimChars (h : Dotted names s) : Text.trimChars s = s :=
  Text.trimChars_of_no_blank fun _ hc => (plainPart_of_isTokenPart (h.parts hc)).blank

theorem ofSegments?_qualified (schemas : List Identifier) (q n : Identifier) :
    ColumnRef.ofSegments? ((schemas ++ [q, n]).map Identifier.chars) =
      some ⟨some q.text, n.text⟩ := by
  induction schemas with
  | nil =>
      simp [ColumnRef.ofSegments?, q.text_ne_empty, n.text_ne_empty, Identifier.chars]
  | cons schema schemas ih =>
      obtain ⟨a, b, rest, hrest⟩ : ∃ a b rest,
          (schemas ++ [q, n]).map Identifier.chars = a :: b :: rest := by
        cases schemas with
        | nil => exact ⟨_, _, _, rfl⟩
        | cons x xs =>
            obtain ⟨b, rest, hrest⟩ := List.exists_cons_of_ne_nil
              (show (xs ++ [q, n]).map Identifier.chars ≠ [] by simp)
            exact ⟨x.chars, b, rest, by rw [List.cons_append, List.map_cons, hrest]⟩
      have hskip : ColumnRef.ofSegments? (schema.chars :: a :: b :: rest) =
          ColumnRef.ofSegments? (a :: b :: rest) := rfl
      rw [List.cons_append, List.map_cons, hrest, hskip, ← hrest, ih]

/-- A column in any spelling is read as what it names. -/
theorem Spelled.columnOf? {c : ColumnName} (h : Spelled (.column c) s) :
    Pattern.columnOf? s = some c.ref := by
  cases h with
  | @column n _ h =>
      have hdotted : Dotted [n] s := .one h
      rw [Pattern.columnOf?, if_pos hdotted.isColumnPath, ColumnRef.ofPathChars?, hdotted.trimChars,
        hdotted.splitChars]
      simp [ColumnRef.ofSegments?, n.text_ne_empty, ColumnName.ref, Identifier.chars]
  | @qualified q n _ schemas h =>
      rw [Pattern.columnOf?, if_pos h.isColumnPath, ColumnRef.ofPathChars?,
        h.trimChars, h.splitChars, ofSegments?_qualified]
      rfl

/-! ## Tables -/

/-- Names without delimiters are a spelling, too. -/
theorem Dotted.joinParts (hne : names ≠ []) :
    Dotted names (Pattern.joinParts '.' (names.map Identifier.chars)) := by
  induction names with
  | nil => exact absurd rfl hne
  | cons n names ih =>
      cases names with
      | nil => exact .one .bare
      | cons next names => exact .cons .bare (ih (List.cons_ne_nil _ _))

theorem Dotted.filter (h : Dotted names s) :
    s.filter (fun c => !Name.isDelimiter c) =
      Pattern.joinParts '.' (names.map Identifier.chars) := by
  have hdot : Name.isDelimiter '.' = false := rfl
  induction h with
  | one h => exact h.filter
  | @cons n names s rest h hrest ih =>
      cases names with
      | nil => cases hrest
      | cons next names =>
          rw [List.filter_append, h.filter, List.filter_cons, ih, hdot]
          rfl

/-- Without delimiters a dotted name is its names with dots between them. -/
theorem Dotted.bareChars (h : Dotted names s) :
    Name.bareChars s = Pattern.joinParts '.' (names.map Identifier.chars) := by
  have hblank : ∀ c ∈ s.filter (fun c => !Name.isDelimiter c), isBlank c = false := fun c hc =>
    (plainPart_of_isTokenPart (h.parts (List.mem_filter.1 hc).1)).blank
  rw [Name.bareChars, Text.trimChars_of_no_blank hblank, h.filter]

theorem Dotted.isTablePath (h : Dotted names s) :
    Pattern.isTablePath (Name.bareChars s) = true := by
  have hne : names ≠ [] := by rintro rfl; cases h
  have hbare : Dotted names (Name.bareChars s) := h.bareChars ▸ Dotted.joinParts hne
  have hstart : (Name.bareChars s).head? ≠ some '.' := by
    intro hhead
    have hstart := hbare.start
    rw [hhead] at hstart
    revert hstart
    decide
  have hparts : ∀ c ∈ Name.bareChars s, (Pattern.isNamePart c || c == '.') = true := by
    intro c hc
    rw [h.bareChars, ← h.filter, List.mem_filter] at hc
    have hpart := h.parts hc.1
    simp only [isTokenPart, Bool.or_eq_true, beq_iff_eq] at hpart
    rcases hpart with (hpart | rfl) | hdelimiter
    · simp [(identifierPart_of_isIdentifierPart hpart).name]
    · rfl
    · simp [hdelimiter] at hc
  simp only [Pattern.isTablePath, Bool.and_eq_true, Bool.not_eq_true', List.isEmpty_eq_false_iff,
    List.all_eq_true, bne_iff_ne]
  exact ⟨⟨⟨hbare.ne_nil, hbare.not_clauseKeyword⟩, hstart⟩, hparts⟩

theorem splitChars_joinParts {parts : List (List Char)} (hne : parts ≠ [])
    (hdot : ∀ part ∈ parts, '.' ∉ part) :
    Text.splitChars '.' (Pattern.joinParts '.' parts) = parts := by
  induction parts with
  | nil => exact absurd rfl hne
  | cons part parts ih =>
      have hpart : '.' ∉ part := hdot part List.mem_cons_self
      cases parts with
      | nil => exact Text.splitChars_of_not_mem hpart
      | cons next parts =>
          rw [Pattern.joinParts, Text.splitChars_append hpart,
            ih (List.cons_ne_nil _ _) fun p hp => hdot p (List.mem_cons_of_mem _ hp)]
          simp

/-- A table is called by the last name of its path. -/
theorem Spelled.lastSegment (h : Spelled (.table n) s) :
    Pattern.lastSegment (Name.bareChars s) = n.chars := by
  cases h with
  | table schemas h =>
      have hdot : ∀ part ∈ (schemas ++ [n]).map Identifier.chars, '.' ∉ part := by
        intro part hpart hmem
        obtain ⟨name, -, rfl⟩ := List.mem_map.1 hpart
        exact (name.identifierPart hmem).ne.1 rfl
      rw [h.bareChars, Pattern.lastSegment, splitChars_joinParts (by simp) hdot]
      simp

/-- A table is accepted. -/
theorem Spelled.isTablePath (h : Spelled (.table n) s) :
    Pattern.isTablePath (Name.bareChars s) = true := by
  cases h with
  | table _ h => exact h.isTablePath

end Names

end JoinGraph.Plain
