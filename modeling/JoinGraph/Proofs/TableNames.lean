import JoinGraph.Proofs.Excerpts
import JoinGraph.Proofs.PlainName

/-!
# Names of tables that are read

A keyword is no alias, and no table if it stands alone.  Of a path the last name is read, and the
path as a whole is compared with the keywords, so a keyword behind a schema is read as a table.
Which ones are depends on the scan for the end of the list: it stops at most of the keywords,
behind a dot as well, but not at those that delimiters hide.

## Main results

* `avoids_textBefore` — the words at which a scan stops do not stand on the top level of what it
  passes.
* `IsReadTable` — a name that stands in a text as the last one of a path.
* `tableNames_read` — all names of tables that are read are such names.
-/

namespace JoinGraph.Pattern

open Text (isBlank isWordPart foldLower asciiLower)

/-! ## Where a scan stops -/

section Scans

variable {m : Matcher} {words : List String} {s front back : List Char}

theorem firstFrom?_append {n : Nesting} {passed : List Char}
    (htop : n.after front = .top) (hback : back ≠ [])
    (hmatch : m (front.reverse ++ passed).head? back ≠ none) :
    ∃ found, firstFrom? m n passed (front ++ back) = some found ∧
      found.before.length ≤ passed.length + front.length := by
  -- The scan matches on the way or comes to the match behind `front`; `passed` is counted with
  -- both.
  induction front generalizing n passed with
  | nil =>
      obtain ⟨c, back, rfl⟩ := List.exists_cons_of_ne_nil hback
      obtain rfl : n = .top := htop
      obtain ⟨rest, hrest⟩ := Option.ne_none_iff_exists'.1 hmatch
      have htop : Nesting.top.isTop = true := rfl
      refine ⟨⟨passed.reverse, rest⟩, ?_, by simp⟩
      simp only [List.nil_append, List.reverse_nil] at hrest ⊢
      simp only [firstFrom?, htop, if_true, hrest]
  | cons c front ih =>
      rw [List.cons_append, firstFrom?]
      cases hfirst : if n.isTop then m passed.head? (c :: (front ++ back)) else none with
      | some rest => exact ⟨⟨passed.reverse, rest⟩, rfl, by simp⟩
      | none =>
          obtain ⟨found, hfound, hlength⟩ :=
            @ih (n.step c) (c :: passed) htop (by simpa using hmatch)
          exact ⟨found, hfound, by simp only [List.length_cons] at hlength ⊢; omega⟩

/-- The text before the first match is no longer than the text before any match on the top level. -/
theorem length_textBefore_le (htop : Nesting.top.after front = .top) (hback : back ≠ [])
    (hmatch : m front.getLast? back ≠ none) :
    (textBefore m (front ++ back)).length ≤ front.length := by
  have hlast : m (front.reverse ++ []).head? back ≠ none := by simpa using hmatch
  obtain ⟨found, hfound, hlength⟩ := firstFrom?_append htop hback hlast
  rw [textBefore, first?, hfound]
  simpa using hlength

theorem firstFrom?_split {n : Nesting} {passed : List Char} {found : Occurrence}
    (h : firstFrom? m n passed s = some found) : ∃ front rest, s = front ++ rest ∧
      found.before = passed.reverse ++ front ∧
        m (front.reverse ++ passed).head? rest = some found.after := by
  induction s generalizing n passed with
  | nil => cases h
  | cons c s ih =>
      rw [firstFrom?] at h
      cases hfirst : if n.isTop then m passed.head? (c :: s) else none with
      | some rest =>
          rw [hfirst] at h
          cases h
          rw [Option.ite_none_right_eq_some] at hfirst
          exact ⟨[], c :: s, rfl, by simp, by simpa using hfirst.2⟩
      | none =>
          rw [hfirst] at h
          obtain ⟨front, rest, rfl, hbefore, hmatch⟩ := ih h
          exact ⟨c :: front, rest, rfl, by simpa using hbefore, by simpa using hmatch⟩

/-- A scan that looks for words does not stop inside of one. -/
theorem textBefore_append {further : List Char → Option (List Char)} (hm : m.Finds words further)
    (s : List Char) : ∃ rest, s = textBefore m s ++ rest ∧
      (startsWord (textBefore m s).getLast? = true ∨ endsWord rest = true) := by
  rw [textBefore]
  cases h : first? m s with
  | none => exact ⟨[], (List.append_nil s).symm, .inr rfl⟩
  | some found =>
      obtain ⟨front, rest, rfl, hbefore, hmatch⟩ := firstFrom?_split h
      obtain rfl : found.before = front := by simpa using hbefore
      refine ⟨rest, rfl, ?_⟩
      cases hlast : found.before.getLast? with
      | none => exact .inl rfl
      | some b =>
          cases rest with
          | nil => exact .inr rfl
          | cons c rest =>
              by_cases hb : isWordPart b = true
              · refine .inr ?_
                by_contra hc
                have hinside := hm.inside b c rest hb (by simpa using hc)
                have hhead : (found.before.reverse ++ []).head? = some b := by simpa using hlast
                rw [hhead, hinside] at hmatch
                cases hmatch
              · exact .inl (by simpa using hb)

/-- What is a word in the text before a match is a word in the whole text. -/
theorem exists_rest_of_textBefore {further : List Char → Option (List Char)}
    (hm : m.Finds words further)
    {run more : List Char} (hs : textBefore m s = front ++ (run ++ more)) (hne : run ≠ [])
    (hrun : ∀ c ∈ run, isWordPart c = true) (hends : endsWord more = true) :
    ∃ rest, s = front ++ (run ++ (more ++ rest)) ∧ endsWord (more ++ rest) = true := by
  obtain ⟨rest, hsplit, hborder⟩ := textBefore_append hm s
  refine ⟨rest, by rw [hs] at hsplit; simpa using hsplit, ?_⟩
  cases more with
  | cons c more => exact hends
  | nil =>
      refine hborder.resolve_left ?_
      obtain ⟨init, c, rfl⟩ := (List.eq_nil_or_concat run).resolve_left hne
      have hc : isWordPart c = true := hrun c (by simp)
      simp [hs, hc]

/-- No word on the top level of a text is one of `words`. -/
def Avoids (words : List String) (s : List Char) : Prop :=
  ∀ front run more, s = front ++ (run ++ more) → Nesting.top.after front = .top →
    startsWord front.getLast? = true → run ≠ [] → (∀ c ∈ run, isWordPart c = true) →
    endsWord more = true → isOneOf words run = false

/-- The text before the first match has no word that the scan looks for. -/
theorem avoids_textBefore (hm : m.Finds words some) (s : List Char) :
    Avoids words (textBefore m s) := by
  intro front run more hs htop hstarts hne hrun hends
  obtain ⟨rest, hwhole, hrest⟩ := exists_rest_of_textBefore hm hs hne hrun hends
  -- Such a word would be a match, and the text before the first match goes beyond it.
  by_contra hone
  have hmatch := hm.word front.getLast? run (more ++ rest) hrun hne hstarts hrest
  rw [if_pos (by simpa using hone)] at hmatch
  have hback : run ++ (more ++ rest) ≠ [] := by simp [hne]
  have hlength := length_textBefore_le (m := m) htop hback (by rw [hmatch]; simp)
  have hpos : 0 < run.length := List.length_pos_iff.2 hne
  rw [← hwhole, hs, List.length_append, List.length_append] at hlength
  omega

namespace Avoids

protected theorem textBefore {sought : List String} {further : List Char → Option (List Char)}
    (h : Avoids words s) (hm : m.Finds sought further) : Avoids words (textBefore m s) := by
  intro front run more hs htop hstarts hne hrun hends
  obtain ⟨rest, hwhole, hrest⟩ := exists_rest_of_textBefore hm hs hne hrun hends
  exact h front run (more ++ rest) hwhole htop hstarts hne hrun hrest

protected theorem append {others : List String} (h : Avoids words s) (h' : Avoids others s) :
    Avoids (words ++ others) s := by
  intro front run more hs htop hstarts hne hrun hends
  have hfirst := h front run more hs htop hstarts hne hrun hends
  have hsecond := h' front run more hs htop hstarts hne hrun hends
  rw [isOneOf] at hfirst hsecond ⊢
  rw [List.any_append, hfirst, hsecond, Bool.or_false]

end Avoids

/-- The first part starts where the text does, and every other one behind a comma on the top
level. -/
theorem splitTopFrom_parts (n : Nesting) (s : List Char) :
    ∃ part parts, splitTopFrom ',' n s = part :: parts ∧
      (∃ back, s = part ++ back ∧ endsWord back = true) ∧
      ∀ next ∈ parts, ∃ front back, s = front ++ ',' :: (next ++ back) ∧
        n.after (front ++ [',']) = .top ∧ endsWord back = true := by
  induction s generalizing n with
  | nil => exact ⟨[], [], rfl, ⟨[], rfl, rfl⟩, by simp⟩
  | cons c s ih =>
      rw [splitTopFrom]
      split
      · next hcut =>
          obtain ⟨rfl, htop⟩ : c = ',' ∧ n.isTop = true := by simpa using hcut
          obtain rfl := Nesting.eq_top_of_isTop htop
          obtain ⟨part, parts, hparts, ⟨back, rfl, hback⟩, hnext⟩ := ih .top
          refine ⟨[], part :: parts, by rw [hparts], ⟨_, rfl, rfl⟩, fun next hmem => ?_⟩
          rcases List.mem_cons.1 hmem with rfl | hmem
          · exact ⟨[], back, rfl, rfl, hback⟩
          · obtain ⟨front, back, hsplit, htop, hback⟩ := hnext next hmem
            exact ⟨',' :: front, back, by rw [hsplit, List.cons_append], htop, hback⟩
      · obtain ⟨part, parts, hparts, ⟨back, rfl, hback⟩, hnext⟩ := ih (n.step c)
        refine ⟨c :: part, parts, by rw [hparts]; rfl, ⟨back, rfl, hback⟩, fun next hmem => ?_⟩
        obtain ⟨front, back, hsplit, htop, hback⟩ := hnext next hmem
        exact ⟨c :: front, back, by rw [hsplit, List.cons_append], htop, hback⟩

/-- An entry of a list starts on the top level, and no word goes on before or behind it. -/
theorem mem_splitTop {part : List Char} (h : part ∈ splitTop ',' s) :
    ∃ front back, s = front ++ (part ++ back) ∧ Nesting.top.after front = .top ∧
      startsWord front.getLast? = true ∧ endsWord back = true := by
  obtain ⟨first, parts, hparts, ⟨back, hfirst, hback⟩, hnext⟩ := splitTopFrom_parts .top s
  rw [splitTop, hparts] at h
  rcases List.mem_cons.1 h with rfl | h
  · exact ⟨[], back, hfirst, rfl, rfl, hback⟩
  · obtain ⟨front, back, hsplit, htop, hback⟩ := hnext part h
    have hcomma : isWordPart ',' = false := by decide
    exact ⟨front ++ [','], back, by simpa using hsplit, htop, by simp [hcomma], hback⟩

/-- A word in an entry of a list is a word in the list. -/
theorem Avoids.of_mem_splitTop {part : List Char} (h : Avoids words s)
    (hpart : part ∈ splitTop ',' s) :
    Avoids words part := by
  obtain ⟨lead, back, rfl, hlead, hborder, hback⟩ := mem_splitTop hpart
  rintro front run more rfl htop hstarts hne hrun hends
  refine h (lead ++ front) run (more ++ back) (by simp) ?_ ?_ hne hrun ?_
  · rw [Nesting.after_append, hlead, htop]
  · cases front with
    | nil => simpa using hborder
    | cons c front => rwa [startsWord_append lead (List.cons_ne_nil c front)]
  · cases more with
    | nil => exact hback
    | cons c more => exact hends

end Scans

/-! ## Names in a text -/

/--
A name of a table that stands in a text.  If it is a keyword, it is the last name of a path: it
stands behind a schema, in one piece without blanks, but for delimiters.  If there are no
delimiters in that, it is none of the words `ends` at which the scans stop.
-/
structure IsReadTable (ends : List String) (text : List Char) (name : String) : Prop where
  ne_empty : name ≠ ""
  parts : ∀ c ∈ name.toList, isNamePart c = true
  qualified : Name.isClauseKeyword name = true → ∃ w schema, w <:+: text ∧
    (∀ c ∈ w, isBlank c = false) ∧ schema ≠ [] ∧
    w.filter (fun c => !Name.isDelimiter c) = schema ++ '.' :: name.toList ∧
    ((∀ c ∈ w, Name.isDelimiter c = false) → ends.any (Text.equalFold · name) = false)

section Names

variable {ends : List String} {text longer path : List Char} {name : String}

namespace IsReadTable

theorem mono (h : IsReadTable ends text name) (htext : text <:+: longer) :
    IsReadTable ends longer name := by
  refine ⟨h.ne_empty, h.parts, fun hkeyword => ?_⟩
  obtain ⟨w, schema, hw, hrest⟩ := h.qualified hkeyword
  exact ⟨w, schema, hw.trans htext, hrest⟩

/-- A name that is read from a text without comments stands in the text. -/
theorem of_prepare (h : IsReadTable ends (prepare text) name) : IsReadTable ends text name := by
  refine ⟨h.ne_empty, h.parts, fun hkeyword => ?_⟩
  obtain ⟨w, schema, hw, hblank, hrest⟩ := h.qualified hkeyword
  exact ⟨w, schema, infix_of_prepare hblank hw, hblank, hrest⟩

end IsReadTable

/-! ### Paths -/

/-- What stands in front of the last segment of a path ends with a dot. -/
theorem lastSegment_eq (path : List Char) :
    lastSegment path = path ∨ ∃ schema, path = schema ++ '.' :: lastSegment path := by
  have hpath := joinParts_splitChars '.' path
  obtain ⟨parts, last, hparts⟩ :=
    (List.eq_nil_or_concat (Text.splitChars '.' path)).resolve_left
      (Text.splitChars_ne_nil '.' path)
  rw [List.concat_eq_append] at hparts
  have hlast : lastSegment path = last := by rw [lastSegment, hparts]; simp
  rw [hparts] at hpath
  rw [hlast]
  cases parts with
  | nil => exact .inl hpath
  | cons part parts =>
      exact .inr ⟨_, hpath.symm.trans (joinParts_append (List.cons_ne_nil _ _) last)⟩

theorem not_mem_lastSegment (path : List Char) : '.' ∉ lastSegment path := by
  refine not_mem_of_mem_splitChars (s := path) ?_
  have hne := Text.splitChars_ne_nil '.' path
  rw [lastSegment, List.getLast?_eq_some_getLast hne]
  exact List.getLast_mem hne

theorem lastSegment_subset (path : List Char) : lastSegment path ⊆ path := by
  intro c hc
  rcases lastSegment_eq path with h | ⟨schema, h⟩
  · exact h ▸ hc
  · rw [h]
    exact List.mem_append_right _ (List.mem_cons_of_mem _ hc)

theorem isNamePart_of_isTablePath (hpath : isTablePath path = true) :
    ∀ c ∈ path, isNamePart c = true ∨ c = '.' := by
  simp only [isTablePath, Bool.and_eq_true, List.all_eq_true, Bool.or_eq_true, beq_iff_eq] at hpath
  exact hpath.2

/-- A keyword that names a table stands behind a schema. -/
theorem exists_schema (hpath : isTablePath path = true)
    (hkeyword : Name.isClauseKeyword (String.ofList (lastSegment path)) = true) :
    ∃ schema, schema ≠ [] ∧ path = schema ++ '.' :: lastSegment path := by
  simp only [isTablePath, Bool.and_eq_true, Bool.not_eq_true', bne_iff_ne] at hpath
  obtain ⟨⟨⟨-, hwhole⟩, hhead⟩, -⟩ := hpath
  rcases lastSegment_eq path with hlast | ⟨schema, hschema⟩
  · rw [hlast, hwhole] at hkeyword
    cases hkeyword
  · refine ⟨schema, ?_, hschema⟩
    rintro rfl
    rw [hschema] at hhead
    exact hhead rfl

/-! ### Entries -/

theorem isPassive_of_isNamePart {c : Char} (h : isNamePart c = true) : isPassive c = true := by
  have hne : ∀ d, isNamePart d = false → c ≠ d := by
    rintro d hd rfl
    exact Bool.false_ne_true (hd.symm.trans h)
  rw [isPassive, isPlainSign]
  cases hword : isWordPart c with
  | true => rfl
  | false =>
      simp [isQuote, hne '\'' (by decide), hne '"' (by decide), hne '\x60' (by decide),
        hne '(' (by decide), hne ')' (by decide), hne '-' (by decide), hne '/' (by decide)]

/-- A keyword that names a table without delimiters is none of the words at which a scan stops. -/
theorem not_ends_of_words {entry : List Char} (schema : List Char) (others : List (List Char))
    (hlower : ∀ word ∈ ends, word.toList.map asciiLower = word.toList) (hends : Avoids ends entry)
    (hwords : Text.words entry = (schema ++ '.' :: name.toList) :: others)
    (hschema : ∀ c ∈ schema, isNamePart c = true ∨ c = '.') (hne : name ≠ "")
    (hkeyword : Name.isClauseKeyword name = true) : ends.any (Text.equalFold · name) = false := by
  have hidentifier : ∀ c ∈ name.toList, Plain.isIdentifierPart c = true :=
    Plain.isIdentifierPart_of_isClauseKeyword (by rwa [String.ofList_toList])
  obtain ⟨gap, more, hentry, hgap, hmore⟩ := Text.words_cons hwords
  have hpassive : ∀ c ∈ gap ++ (schema ++ ['.']), isPassive c = true := by
    simp only [List.forall_mem_append, List.forall_mem_singleton]
    refine ⟨fun c hc => isPassive_of_isPlainSign (isPlainSign_of_isBlank (hgap c hc)),
      fun c hc => ?_, ?_⟩
    · rcases hschema c hc with hname | rfl
      · exact isPassive_of_isNamePart hname
      · decide
    · decide
  have hmore : endsWord more = true := by
    cases more with
    | nil => rfl
    | cons c more => simp [Text.isWordPart_of_isBlank (by simpa using hmore)]
  have hdot : isWordPart '.' = false := by decide
  rw [← Plain.isOneOf_eq_any_equalFold hlower hidentifier]
  exact hends (gap ++ (schema ++ ['.'])) name.toList more (by simp [hentry])
    (Nesting.after_top hpassive)
    (by simp [hdot]) (by simpa using hne)
    (fun c hc => (Plain.identifierPart_of_isIdentifierPart (hidentifier c hc)).word) hmore

/-- The table of an entry is its first word, and the alias one of those behind it. -/
theorem words_of_table? {entry : List Char} {t : Shape.Flat.Table} (h : table? entry = some t) :
    ∃ word others, Text.words entry = word :: others ∧ isTablePath (Name.bareChars word) = true ∧
      lastSegment (Name.bareChars word) ≠ [] ∧
      t = ⟨String.ofList (lastSegment (Name.bareChars word)), aliasAmong? others⟩ := by
  rw [table?] at h
  simp only [Text.words_trimChars] at h
  split at h
  · cases h
  split at h
  · cases h
  · next word others hwords =>
      rw [Option.ite_none_right_eq_some, Bool.and_eq_true] at h
      obtain ⟨⟨hpath, hne⟩, heq⟩ := h
      exact ⟨word, others, hwords, hpath, by simpa using hne, (Option.some.inj heq).symm⟩

/-- The table of an entry stands in the entry. -/
theorem isReadTable_table? {entry : List Char} {t : Shape.Flat.Table}
    (hlower : ∀ word ∈ ends, word.toList.map asciiLower = word.toList) (hends : Avoids ends entry)
    (h : table? entry = some t) : IsReadTable ends entry t.table := by
  obtain ⟨word, others, hwords, hpath, hne, rfl⟩ := words_of_table? h
  obtain ⟨hword, -, hblank⟩ := Text.mem_words (hwords ▸ List.mem_cons_self)
  have hbare : Name.bareChars word = word.filter fun c => !Name.isDelimiter c := by
    rw [Name.bareChars, Text.trimChars_of_no_blank fun c hc => hblank c (List.mem_filter.1 hc).1]
  have hparts := isNamePart_of_isTablePath hpath
  have hne : String.ofList (lastSegment (Name.bareChars word)) ≠ "" := by simpa using hne
  refine ⟨hne, fun c hc => ?_, fun hkeyword => ?_⟩
  · rw [String.toList_ofList] at hc
    exact (hparts c (lastSegment_subset _ hc)).resolve_right fun hdot =>
      not_mem_lastSegment (Name.bareChars word) (hdot ▸ hc)
  · obtain ⟨schema, hschema, hsplit⟩ := exists_schema hpath hkeyword
    refine ⟨word, schema, hword, hblank, hschema, ?_, fun hdelimiter => ?_⟩
    · rw [← hbare, String.toList_ofList]
      exact hsplit
    · have hplain : Name.bareChars word = word := by
        rw [hbare]
        exact List.filter_eq_self.2 fun c hc => by simp [hdelimiter c hc]
      refine not_ends_of_words schema others hlower hends ?_
        (fun c hc => hparts c (hsplit ▸ List.mem_append_left _ hc)) hne hkeyword
      rw [String.toList_ofList, ← hsplit, hplain, hwords]

theorem bareChars_bareChars (name : List Char) :
    Name.bareChars (Name.bareChars name) = Name.bareChars name := by
  have hfilter : (Name.bareChars name).filter (fun c => !Name.isDelimiter c) =
      Name.bareChars name := by
    refine List.filter_eq_self.2 fun c hc => ?_
    exact (List.mem_filter.1 ((Text.trimChars_isInfix _).subset hc)).2
  rw [Name.bareChars, hfilter, Name.bareChars, Text.trimChars_trimChars]

/-- An alias is a plain name that is undressed already. -/
theorem isPlainName_aliasAmong? {words : List (List Char)} {a : String}
    (h : aliasAmong? words = some a) :
    isPlainName a.toList = true ∧ Name.bareChars a.toList = a.toList := by
  cases words with
  | nil => cases h
  | cons word rest =>
      simp only [aliasAmong?] at h
      obtain ⟨name, hname, h⟩ := Option.bind_eq_some_iff.1 h
      obtain ⟨written, -, rfl⟩ := Option.map_eq_some_iff.1 hname
      rw [Option.ite_none_right_eq_some] at h
      obtain ⟨hplain, heq⟩ := h
      cases heq
      rw [String.toList_ofList, bareChars_bareChars]
      exact ⟨hplain, rfl⟩

/-- An alias is no keyword. -/
theorem aliasAmong?_not_keyword {words : List (List Char)} {a : String}
    (h : aliasAmong? words = some a) :
    Name.isClauseKeyword a = false := by
  obtain ⟨hplain, hbare⟩ := isPlainName_aliasAmong? h
  simp only [isPlainName, hbare, String.ofList_toList, Bool.and_eq_true,
    Bool.not_eq_true'] at hplain
  exact hplain.1.2

theorem not_keyword_of_table? {entry : List Char} {t : Shape.Flat.Table}
    (h : table? entry = some t) :
    ∀ a ∈ t.alias?, Name.isClauseKeyword a = false := by
  obtain ⟨word, others, -, -, -, rfl⟩ := words_of_table? h
  exact fun a ha => aliasAmong?_not_keyword ha

end Names

/-! ## Tables -/

section Tables

variable {text : List Char}

theorem map_asciiLower_clauseEnds :
    ∀ word ∈ "on" :: clauseEnds, word.toList.map asciiLower = word.toList := by decide +kernel

/-- A table of a FROM list stands in the text. -/
theorem isReadTable_tables {t : Shape.Flat.Table} (h : t ∈ tables text) :
    IsReadTable clauseEnds text t.table ∧ ∀ a ∈ t.alias?, Name.isClauseKeyword a = false := by
  obtain ⟨found, hfound, ht⟩ := List.mem_flatMap.1 h
  obtain ⟨entry, hentry, htable⟩ := List.mem_filterMap.1 ht
  have hm : (either (anyWord clauseEnds) (character ')')).Finds clauseEnds some :=
    (finds_anyWord (by decide)).either_paren
  have hends : Avoids clauseEnds entry := (avoids_textBefore hm found.after).of_mem_splitTop hentry
  have hlower : ∀ word ∈ clauseEnds, word.toList.map asciiLower = word.toList := fun word hmem =>
    map_asciiLower_clauseEnds word (List.mem_cons_of_mem _ hmem)
  have hafter := (mem_occurrences (cuts_wholeWord "from") hfound).2.isInfix
  have hcuts := (cuts_anyWord clauseEnds).either (cuts_character ')')
  have hlist := (textBefore_isPrefix hcuts found.after).isInfix
  exact ⟨(isReadTable_table? hlower hends htable).mono
    (((infix_of_mem_splitTop hentry).trans hlist).trans hafter), not_keyword_of_table? htable⟩

/-- A joined table is read from the text before `on`. -/
theorem table?_of_join? {found : Occurrence} {j : Shape.Flat.Join} (h : join? found = some j) :
    table? (textBefore (wholeWord "on") (textBefore (anyWord clauseEnds) found.after)) =
      some ⟨j.table, j.alias?⟩ := by
  rw [join?] at h
  generalize textBefore (anyWord clauseEnds) found.after = clause at h ⊢
  obtain ⟨t, ht, rfl⟩ := Option.map_eq_some_iff.1 h
  rw [textBefore]
  cases hon : first? (wholeWord "on") clause with
  | none => simpa [hon] using ht
  | some on => simpa [hon] using ht

/-- A joined table stands in the text. -/
theorem isReadTable_joins {j : Shape.Flat.Join} (h : j ∈ joins text) :
    IsReadTable ("on" :: clauseEnds) text j.table ∧ ∀ a ∈ j.alias?,
      Name.isClauseKeyword a = false := by
  obtain ⟨found, hfound, hjoin⟩ := List.mem_filterMap.1 h
  have htable := table?_of_join? hjoin
  have hon : (wholeWord "on").Finds ["on"] some := finds_wholeWord (by decide)
  have hclause : (anyWord clauseEnds).Finds clauseEnds some := finds_anyWord (by decide)
  -- The scan for `on` goes over what the scan for the end of the join has passed.
  have hends : Avoids ("on" :: clauseEnds)
      (textBefore (wholeWord "on") (textBefore (anyWord clauseEnds) found.after)) :=
    (avoids_textBefore hon _).append ((avoids_textBefore hclause _).textBefore hon)
  have hafter := (mem_occurrences (cuts_wordAndBlanks "join") hfound).2.isInfix
  have hend := (textBefore_isPrefix (cuts_anyWord clauseEnds) found.after).isInfix
  have hbefore := (textBefore_isPrefix (cuts_wholeWord "on")
    (textBefore (anyWord clauseEnds) found.after)).isInfix
  exact ⟨(isReadTable_table? map_asciiLower_clauseEnds hends htable).mono
    ((hbefore.trans hend).trans hafter), not_keyword_of_table? htable⟩

end Tables

end JoinGraph.Pattern

namespace JoinGraph

open Pattern (IsReadTable)

/--
No alias that is read is a keyword.  A table is one only as the last name of a path, behind a
schema in the statement.  Without delimiters it is none of the words that end a FROM list or a
join, and in a join not `on`.
-/
theorem tableNames_read (sql : String) :
    (∀ t ∈ (Pattern.read sql).tables, IsReadTable Pattern.clauseEnds sql.toList t.table ∧
      ∀ a ∈ t.alias?, Name.isClauseKeyword a = false) ∧
    (∀ j ∈ (Pattern.read sql).joins, IsReadTable ("on" :: Pattern.clauseEnds) sql.toList j.table ∧
      ∀ a ∈ j.alias?, Name.isClauseKeyword a = false) :=
  ⟨fun _ ht => (Pattern.isReadTable_tables ht).imp_left IsReadTable.of_prepare,
    fun _ hj => (Pattern.isReadTable_joins hj).imp_left IsReadTable.of_prepare⟩

/-- Keywords behind schemas, one in a FROM list and one joined. -/
theorem tableNames_read_qualified :
    IsReadTable Pattern.clauseEnds "SELECT x FROM s.lateral AS l".toList "lateral" ∧
      IsReadTable ("on" :: Pattern.clauseEnds) "SELECT x FROM t JOIN s.\"on\"".toList "on" :=
  ⟨((tableNames_read "SELECT x FROM s.lateral AS l").1 ⟨"lateral", some "l"⟩ (by decide +kernel)).1,
    ((tableNames_read "SELECT x FROM t JOIN s.\"on\"").2 ⟨"on", none, none, none⟩
      (by decide +kernel)).1⟩

/-- Each keyword that ends no list is read as a table behind a schema, and delimiters hide the
others. -/
theorem tableNames_read_keywords :
    (∀ word ∈ ["as", "on", "using", "lateral", "select", "from", "and", "or"],
      Name.isClauseKeyword word = true ∧
        (Pattern.read ("SELECT x FROM s." ++ word)).tables = [⟨word, none⟩]) ∧
      (Pattern.read "SELECT x FROM s.\"where\"").tables = [⟨"where", none⟩] ∧
      (Pattern.read "SELECT x FROM t JOIN s.lateral ON t.a = b").joins =
        [⟨"lateral", none, some ⟨some "t", "a"⟩, some ⟨none, "b"⟩⟩] := by
  refine ⟨?_, ?_, ?_⟩ <;> decide +kernel

end JoinGraph
