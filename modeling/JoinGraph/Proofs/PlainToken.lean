import JoinGraph.Proofs.KeywordScan
import JoinGraph.Proofs.PlainStatement
import JoinGraph.Proofs.BlankSplit

/-!
# Tokens of plain statements

What is true of the text of a token whatever its case and its delimiters: which characters it has,
and that no keyword is found in it but its own.

## Main results

* `Spelled.parts` — a word but a literal or `*` consists of `isTokenPart` characters.
* `Spelled.free` — a scan for keywords or commas passes a token that is none of them.
* `Spelled.trimFront_append`, `Spelled.trimBack_append` — blanks around a token go, and the token
  stays.
-/

namespace JoinGraph.Plain

open Text (isBlank isWordPart foldLower asciiLower)
open Pattern (Free isOneOf)

/-! ## Characters -/

/-- The characters of names, of dotted names and of names within delimiters. -/
def isTokenPart (c : Char) : Bool := isIdentifierPart c || c == '.' || Name.isDelimiter c

theorem isTokenPart_ascii {c : Char} (h : isTokenPart c = true) : c.toNat < 128 := by
  simp only [isTokenPart, isIdentifierPart, Name.isDelimiter, Text.isAsciiLetter, Text.isAsciiDigit,
    Bool.or_eq_true, Bool.and_eq_true, decide_eq_true_eq, beq_iff_eq] at h
  rcases h with ((((⟨_, h⟩ | ⟨_, h⟩) | ⟨_, h⟩) | rfl) | rfl) | ((rfl | rfl) | rfl) | rfl
  all_goals first | omega | decide

/-- A character of a name is no blank, no comma, no operator and no parenthesis. -/
structure PlainPart (c : Char) : Prop where
  blank : isBlank c = false
  comparison : Pattern.isComparisonPart c = false
  path : Pattern.isPathPart c = true
  ne : c ≠ ',' ∧ c ≠ '(' ∧ c ≠ ')' ∧ c ≠ ';'

theorem plainPart_of_isTokenPart {c : Char} (h : isTokenPart c = true) : PlainPart c := by
  have hall : isTokenPart c = true → isBlank c = false ∧ Pattern.isComparisonPart c = false ∧
      Pattern.isPathPart c = true ∧ c ≠ ',' ∧ c ≠ '(' ∧ c ≠ ')' ∧ c ≠ ';' :=
    Text.ascii_forall (p := fun c => isTokenPart c = true → isBlank c = false ∧
      Pattern.isComparisonPart c = false ∧ Pattern.isPathPart c = true ∧ c ≠ ',' ∧ c ≠ '(' ∧ c ≠ ')'
      ∧ c ≠ ';') (by decide +kernel) (isTokenPart_ascii h)
  obtain ⟨hblank, hcomparison, hpath, hne⟩ := hall h
  exact ⟨hblank, hcomparison, hpath, hne⟩

/-- A character of an identifier is a letter, a digit or an underscore also for the scans. -/
structure IdentifierPart (c : Char) : Prop where
  word : isWordPart c = true
  name : Pattern.isNamePart c = true
  fold : foldLower c = asciiLower c
  bare : Name.isDelimiter c = false
  ne : c ≠ '.' ∧ c ≠ '"' ∧ c ≠ '\x60'

theorem identifierPart_of_isIdentifierPart {c : Char} (h : isIdentifierPart c = true) :
    IdentifierPart c := by
  have htoken : isTokenPart c = true := by simp [isTokenPart, h]
  have hall : isIdentifierPart c = true → isWordPart c = true ∧ Pattern.isNamePart c = true ∧
      foldLower c = asciiLower c ∧ Name.isDelimiter c = false ∧ c ≠ '.' ∧ c ≠ '"' ∧ c ≠ '\x60' :=
    Text.ascii_forall (p := fun c => isIdentifierPart c = true → isWordPart c = true ∧
      Pattern.isNamePart c = true ∧ foldLower c = asciiLower c ∧ Name.isDelimiter c = false ∧
      c ≠ '.' ∧ c ≠ '"' ∧ c ≠ '\x60') (by decide +kernel) (isTokenPart_ascii htoken)
  obtain ⟨hword, hname, hfold, hbare, hne⟩ := hall h
  exact ⟨hword, hname, hfold, hbare, hne⟩

/-- The scans for words look for them in any ASCII case. -/
theorem isOneOf_eq_any_equalFold {words : List String} {s : String}
    (hlower : ∀ word ∈ words, word.toList.map asciiLower = word.toList)
    (hparts : ∀ c ∈ s.toList, isIdentifierPart c = true) :
    isOneOf words s.toList = words.any (Text.equalFold · s) := by
  have hfold : s.toList.map foldLower = s.toList.map asciiLower :=
    List.map_congr_left fun c hc => (identifierPart_of_isIdentifierPart (hparts c hc)).fold
  rw [isOneOf, hfold, Bool.eq_iff_iff, List.any_eq_true, List.any_eq_true]
  refine exists_congr fun word => and_congr_right fun hword => ?_
  rw [Text.equalFold, hlower word hword, beq_iff_eq, beq_iff_eq, eq_comm]

namespace Identifier

variable (n : Identifier)

theorem part {c : Char} (h : c ∈ n.chars) : isIdentifierPart c = true :=
  List.all_eq_true.1 n.parts c h

theorem chars_ne_nil : n.chars ≠ [] := by
  intro h
  have hstart := n.start
  rw [show n.text.toList = [] from h] at hstart
  simp at hstart

theorem text_ne_empty : n.text ≠ "" := fun h => n.chars_ne_nil (by rw [chars, h]; rfl)

theorem identifierPart {c : Char} (h : c ∈ n.chars) : IdentifierPart c :=
  identifierPart_of_isIdentifierPart (n.part h)

theorem isTokenPart_of_mem {c : Char} (h : c ∈ n.chars) : isTokenPart c = true := by
  simp [isTokenPart, n.part h]

/-- An identifier is no reserved word. -/
theorem not_reserved : isOneOf reservedWords n.chars = false :=
  (isOneOf_eq_any_equalFold (by decide +kernel) fun _ hc => n.part hc).trans n.free

theorem not_clauseKeyword : Name.isClauseKeyword n.text = false := by
  have hfree := n.free
  rw [reservedWords, List.any_append, Bool.or_eq_false_iff] at hfree
  exact hfree.1

/-- Scans for reserved words pass an identifier. -/
theorem isOneOf_eq_false {words : List String} (hwords : words ⊆ reservedWords) :
    isOneOf words n.chars = false := by
  rw [isOneOf, List.any_eq_false]
  intro word hword
  exact List.any_eq_false.1 n.not_reserved word (hwords hword)

end Identifier

/-! ## Names -/

section Names

variable {n : Identifier} {names : List Identifier} {s : List Char} {words : List String}
  {signs : List Char}

theorem Wrapped.parts (h : Wrapped n s) {c : Char} (hc : c ∈ s) : isTokenPart c = true := by
  have hchars : ∀ c ∈ n.chars, isTokenPart c = true := fun c hc => n.isTokenPart_of_mem hc
  cases h with
  | bare => exact hchars c hc
  | bracketed =>
      simp only [List.mem_cons, List.mem_append, List.not_mem_nil, or_false] at hc
      rcases hc with rfl | hc | rfl
      · decide
      · exact hchars c hc
      · decide
  | quoted hquote =>
      simp only [List.mem_cons, List.mem_append, List.not_mem_nil, or_false] at hc
      rcases hc with rfl | hc | rfl
      · rcases hquote with rfl | rfl <;> decide
      · exact hchars c hc
      · rcases hquote with rfl | rfl <;> decide

theorem Wrapped.ne_nil (h : Wrapped n s) : s ≠ [] := by
  cases h with
  | bare => exact n.chars_ne_nil
  | bracketed => exact List.cons_ne_nil _ _
  | quoted => exact List.cons_ne_nil _ _

/-- Scans for reserved words pass a name. -/
theorem Wrapped.free (h : Wrapped n s) (hwords : words ⊆ reservedWords)
    (hsigns : ∀ c ∈ signs, c = ',') : Free words signs s := by
  have hword : ∀ c ∈ n.chars, isWordPart c = true := fun c hc => (n.identifierPart hc).word
  cases h with
  | bare =>
      simpa using Free.word n.chars_ne_nil hword (n.isOneOf_eq_false hwords) rfl Free.nil
  | bracketed =>
      have hclose : Free words signs [']'] :=
        .sign (by decide) (fun hc => by simpa using hsigns _ hc) .nil
      exact .sign (by decide) (fun hc => by simpa using hsigns _ hc)
        (.word n.chars_ne_nil hword (n.isOneOf_eq_false hwords) (by decide) hclose)
  | @quoted quote hquote =>
      have hbody : quote ∉ n.chars := by
        intro hc
        obtain ⟨-, hdouble, hback⟩ := (n.identifierPart hc).ne
        exact hquote.elim hdouble hback
      exact .quoted (by rcases hquote with rfl | rfl <;> decide) hbody .nil

theorem Dotted.parts (h : Dotted names s) {c : Char} (hc : c ∈ s) : isTokenPart c = true := by
  induction h with
  | one h => exact h.parts hc
  | cons h _ ih =>
      rcases List.mem_append.1 hc with hc | hc
      · exact h.parts hc
      · rcases List.mem_cons.1 hc with rfl | hc
        · decide
        · exact ih hc

theorem Dotted.ne_nil (h : Dotted names s) : s ≠ [] := by
  cases h with
  | one h => exact h.ne_nil
  | cons h => simp

/-- Scans for reserved words pass a dotted name. -/
theorem Dotted.free (h : Dotted names s) (hwords : words ⊆ reservedWords)
    (hsigns : ∀ c ∈ signs, c = ',') : Free words signs s := by
  induction h with
  | one h => exact h.free hwords hsigns
  | cons h _ ih =>
      have hdot : Free words signs ('.' :: _) :=
        .sign (by decide) (fun hc => by simpa using hsigns _ hc) ih
      exact (h.free hwords hsigns).append hdot (.inr rfl)

end Names

/-! ## Tokens -/

theorem isIdentifierPart_of_asciiLower {c : Char} (h : Text.isLowerLetter (asciiLower c) = true) :
    isIdentifierPart c = true := by
  simp only [isIdentifierPart, Text.isAsciiLetter, Bool.or_eq_true, Bool.and_eq_true,
    decide_eq_true_eq]
  by_cases hupper : 65 ≤ c.toNat ∧ c.toNat ≤ 90
  · exact .inl (.inl (.inr hupper))
  · have hself : asciiLower c = c := by simp [asciiLower, hupper]
    rw [hself, Text.isLowerLetter, Bool.and_eq_true, decide_eq_true_eq, decide_eq_true_eq] at h
    exact .inl (.inl (.inl h))

theorem Keyword.isKeyword (k : Keyword) : Pattern.IsKeyword k.text := by
  cases k <;> decide

/-- The tokens whose texts have no blank and no sign in them: all words but `*` and literals. -/
def Token.isName : Token → Bool
  | keyword _ => true
  | table _ => true
  | column _ => true
  | name _ => true
  | _ => false

theorem Token.isWord_of_isName {t : Token} (h : t.isName = true) : t.isWord = true := by
  cases t <;> first | rfl | cases h

namespace Spelled

variable {t : Token} {k : Keyword} {s : List Char} {words : List String} {signs : List Char}

/-- A keyword in any case is a word of letters. -/
theorem keyword_part (h : Spelled (.keyword k) s) {c : Char} (hc : c ∈ s) :
    isIdentifierPart c = true := by
  cases h with
  | keyword h =>
      refine isIdentifierPart_of_asciiLower (k.isKeyword.letters _ ?_)
      exact h ▸ List.mem_map_of_mem hc

theorem keyword_fold (h : Spelled (.keyword k) s) : s.map foldLower = k.text.toList := by
  have hpart : ∀ c ∈ s, foldLower c = asciiLower c := fun c hc =>
    (identifierPart_of_isIdentifierPart (h.keyword_part hc)).fold
  cases h with
  | keyword h => rw [← h, List.map_congr_left hpart]

theorem keyword_ne_nil (h : Spelled (.keyword k) s) : s ≠ [] := by
  rintro rfl
  exact k.isKeyword.1 h.keyword_fold.symm

theorem keyword_word (h : Spelled (.keyword k) s) : ∀ c ∈ s, isWordPart c = true := fun _ hc =>
  (identifierPart_of_isIdentifierPart (h.keyword_part hc)).word

/-- A keyword is one of the words that are looked for if its own word is. -/
theorem isOneOf_keyword (h : Spelled (.keyword k) s) :
    isOneOf words s = decide (k.text ∈ words) := by
  rw [isOneOf, h.keyword_fold, Bool.eq_iff_iff, List.any_eq_true, decide_eq_true_eq]
  simp only [beq_iff_eq, String.toList_inj, exists_eq_right']

/-- A word but a literal or `*` has the characters of names. -/
theorem parts (h : Spelled t s) (ht : t.isName = true) : ∀ c ∈ s, isTokenPart c = true := by
  intro c hc
  cases h with
  | keyword h => simp [isTokenPart, keyword_part (.keyword h) hc]
  | table _ h => exact h.parts hc
  | column h => exact h.parts hc
  | qualified _ h => exact h.parts hc
  | name h => exact h.parts hc
  | comma => cases ht
  | star => cases ht
  | operator => cases ht
  | unequal => cases ht
  | literal => cases ht

theorem no_blank (h : Spelled t s) (ht : t.isName = true) : ∀ c ∈ s, isBlank c = false :=
  fun c hc => (plainPart_of_isTokenPart (h.parts ht c hc)).blank

theorem ne_nil (h : Spelled t s) : s ≠ [] := by
  cases h with
  | keyword h => exact keyword_ne_nil (.keyword h)
  | table _ h => exact h.ne_nil
  | column h => exact h.ne_nil
  | qualified _ h => exact h.ne_nil
  | name h => exact h.ne_nil
  | operator o => cases o <;> decide
  | _ => exact List.cons_ne_nil _ _

/-- Scans for keywords and commas pass a token that is none of them. -/
theorem free (h : Spelled t s) (hwords : words ⊆ reservedWords)
    (hkeyword : ∀ k, t = .keyword k → k.text ∉ words) (hsigns : ∀ c ∈ signs, c = ',')
    (hcomma : t = .comma → signs = []) : Free words signs s := by
  have hsign : ∀ {c : Char}, Pattern.isPlainSign c = true → c ≠ ',' → ∀ {rest : List Char},
      Free words signs rest → Free words signs (c :: rest) := fun hc hne _ hrest =>
    .sign hc (fun hmem => hne (hsigns _ hmem)) hrest
  cases h with
  | @keyword k _ h =>
      have hspelled : Spelled (.keyword k) s := .keyword h
      have hone : isOneOf words s = false := by
        rw [hspelled.isOneOf_keyword, decide_eq_false_iff_not]
        exact hkeyword k rfl
      simpa using Free.word hspelled.keyword_ne_nil hspelled.keyword_word hone rfl Free.nil
  | comma => exact .sign (by decide) (by simp [hcomma rfl]) .nil
  | star => exact hsign (by decide) (by decide) .nil
  | table _ h => exact h.free hwords hsigns
  | column h => exact h.free hwords hsigns
  | qualified _ h => exact h.free hwords hsigns
  | name h => exact h.free hwords hsigns
  | operator o =>
      cases o with
      | equal => exact hsign (by decide) (by decide) .nil
      | notEqual => exact hsign (by decide) (by decide) (hsign (by decide) (by decide) .nil)
      | less => exact hsign (by decide) (by decide) .nil
      | greater => exact hsign (by decide) (by decide) .nil
      | atMost => exact hsign (by decide) (by decide) (hsign (by decide) (by decide) .nil)
      | atLeast => exact hsign (by decide) (by decide) (hsign (by decide) (by decide) .nil)
  | unequal => exact hsign (by decide) (by decide) (hsign (by decide) (by decide) .nil)
  | literal l => exact .quoted (by decide) l.unquoted .nil

/-- Behind a comma and behind an operator a word may start. -/
theorem startsWord_last (h : Spelled t s) (ht : t.isWord = false) :
    Pattern.startsWord s.getLast? = true := by
  cases h with
  | comma => decide
  | operator o => cases o <;> decide
  | unequal => decide
  | _ => cases ht

end Spelled

/-! ## Ends of tokens -/

/-- What a token starts and ends with: no blank, no parenthesis and no semicolon. -/
def isEdge (c : Char) : Bool := !isBlank c && !(c == '(' || c == ')' || c == ';')

theorem not_blank_of_isEdge {c : Char} (h : isEdge c = true) : isBlank c = false := by
  simp only [isEdge, Bool.and_eq_true, Bool.not_eq_true'] at h
  exact h.1

theorem ne_of_isEdge {c : Char} (h : isEdge c = true) : c ≠ '(' ∧ c ≠ ')' ∧ c ≠ ';' := by
  refine ⟨?_, ?_, ?_⟩ <;> (rintro rfl; revert h; decide)

theorem isEdge_of_isTokenPart {c : Char} (h : isTokenPart c = true) : isEdge c = true := by
  obtain ⟨hblank, -, -, hne⟩ := plainPart_of_isTokenPart h
  simp [isEdge, hblank, hne]

namespace Spelled

variable {t : Token} {s : List Char}

/-- A token that is no literal has no blank in it. -/
theorem edges (h : Spelled t s) (ht : ∀ l, t ≠ .literal l) : ∀ c ∈ s, isEdge c = true := by
  have hname : t.isName = true → ∀ c ∈ s, isEdge c = true := fun ht c hc =>
    isEdge_of_isTokenPart (h.parts ht c hc)
  cases h with
  | comma => exact List.all_eq_true.1 rfl
  | star => exact List.all_eq_true.1 rfl
  | operator o => exact List.all_eq_true.1 (by cases o <;> decide)
  | unequal => exact List.all_eq_true.1 rfl
  | literal l => exact absurd rfl (ht l)
  | _ => exact hname rfl

theorem head_edge (h : Spelled t s) : ∃ c rest, s = c :: rest ∧ isEdge c = true := by
  by_cases ht : ∃ l, t = .literal l
  · obtain ⟨l, rfl⟩ := ht
    cases h
    exact ⟨_, _, rfl, by decide⟩
  · obtain ⟨c, rest, rfl⟩ := List.exists_cons_of_ne_nil h.ne_nil
    exact ⟨c, rest, rfl, h.edges (fun l hl => ht ⟨l, hl⟩) c List.mem_cons_self⟩

theorem last_edge (h : Spelled t s) : ∃ rest c, s = rest ++ [c] ∧ isEdge c = true := by
  by_cases ht : ∃ l, t = .literal l
  · obtain ⟨l, rfl⟩ := ht
    cases h
    exact ⟨_, _, (List.cons_append).symm, by decide⟩
  · obtain ⟨rest, c, rfl⟩ := (List.eq_nil_or_concat s).resolve_left h.ne_nil
    exact ⟨rest, c, List.concat_eq_append, h.edges (fun l hl => ht ⟨l, hl⟩) c (by simp)⟩

/-- No word ends where a word starts. -/
theorem not_endsToken (h : Spelled t s) (ht : t.isWord = true) (rest : List Char) :
    endsToken (s ++ rest) = false := by
  have hname : t.isName = true → endsToken (s ++ rest) = false := fun hname => by
    obtain ⟨c, s, rfl⟩ := List.exists_cons_of_ne_nil h.ne_nil
    obtain ⟨hblank, hcomparison, -, hcomma, -⟩ :=
      plainPart_of_isTokenPart (h.parts hname c List.mem_cons_self)
    simp [endsToken, hblank, hcomparison, hcomma]
  cases h with
  | comma => cases ht
  | operator => cases ht
  | unequal => cases ht
  | star => rfl
  | literal => rfl
  | _ => exact hname rfl

/-- Blanks before a token go, and the token stays. -/
theorem trimFront_append (h : Spelled t s) {gap : List Char} (hgap : ∀ c ∈ gap, isBlank c = true)
    (rest : List Char) : Text.trimFront (gap ++ (s ++ rest)) = s ++ rest := by
  obtain ⟨c, s, rfl, hc⟩ := h.head_edge
  rw [Text.trimFront_blanks_append hgap, List.cons_append,
    Text.trimFront_cons (not_blank_of_isEdge hc)]

/-- A token is found behind blanks. -/
theorem afterBlanks?_append (h : Spelled t s) {b : Char} {gap : List Char}
    (hgap : ∀ c ∈ b :: gap, isBlank c = true) (rest : List Char) :
    Pattern.afterBlanks? (b :: gap ++ (s ++ rest)) = some (s ++ rest) := by
  have hb : isBlank b = true := hgap b List.mem_cons_self
  rw [List.cons_append, Pattern.afterBlanks?, if_pos hb,
    h.trimFront_append fun c hc => hgap c (List.mem_cons_of_mem _ hc)]

/-- Blanks behind a token go, and the token stays. -/
theorem trimBack_append (h : Spelled t s) (before rest : List Char) :
    Text.trimBack (before ++ (s ++ rest)) = before ++ (s ++ Text.trimBack rest) := by
  obtain ⟨init, c, rfl, hc⟩ := h.last_edge
  have htrim := Text.trimBack_append (not_blank_of_isEdge hc) (before ++ init) rest
  simpa using htrim

end Spelled

end JoinGraph.Plain
