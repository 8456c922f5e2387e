import JoinGraph.Proofs.PlainToken
import Mathlib.Data.List.Forall2

/-!
# Layouts of plain statements

The scans that read a text find in a layout what its tokens say: keywords where their tokens
stand, list entries between the commas, and words between the blanks.  What stands before and
behind a keyword is again a layout, of the tokens before and behind it, so the readers go from
layout to layout.

## Main results

* `Layout.occurrencesFrom_keyword`, `Layout.first?_keyword`, `Layout.textBefore` — keywords.
* `Layout.splitTop` — list entries.
* `Layout.trimChars`, `Layout.words` — blanks.
* `Layout.prepare` — comments and semicolons.
-/

namespace JoinGraph.Plain

open Text (isBlank isWordPart foldLower asciiLower)
open Pattern (Free Matcher startsWord endsWord startsWord_append endsWord_append occurrencesFrom)

/-! ## Borders of tokens -/

section Borders

variable {gap rest : List Char}

theorem startsWord_of_blanks (hgap : ∀ c ∈ gap, isBlank c = true) :
    startsWord gap.getLast? = true := by
  cases hlast : gap.getLast? with
  | none => rfl
  | some c => simp [Text.isWordPart_of_isBlank (hgap c (List.mem_of_getLast? hlast))]

theorem endsWord_of_endsToken (h : endsToken rest = true) : endsWord rest = true := by
  cases rest with
  | nil => rfl
  | cons c rest =>
      simp only [endsToken, List.head?_cons, Option.all_some, Bool.or_eq_true, beq_iff_eq] at h
      rw [Pattern.endsWord_cons, Bool.not_eq_true']
      rcases h with (h | rfl) | h
      · exact Text.isWordPart_of_isBlank h
      · decide
      · simp only [Pattern.isComparisonPart, Bool.or_eq_true, beq_iff_eq] at h
        rcases h with ((rfl | rfl) | rfl) | rfl <;> decide

end Borders

namespace Layout

variable {t : Token} {ts pre post : List Token} {k : Keyword} {text s rest passed : List Char}
  {sought : List String} {signs : List Char} {m : Matcher}
  {further : List Char → Option (List Char)}

theorem of_token (hs : Spelled t s) (hends : t.isWord = true → endsToken rest = true)
    (hrest : Layout ts rest) : Layout (t :: ts) (s ++ rest) :=
  @Layout.cons t ts [] s rest (by simp) hs hends hrest

theorem of_blank (blank : Char) (hblank : isBlank blank = true) (hs : Spelled t s)
    (hends : t.isWord = true → endsToken rest = true) (hrest : Layout ts rest) :
    Layout (t :: ts) (blank :: (s ++ rest)) :=
  @Layout.cons t ts [blank] s rest (by simpa using hblank) hs hends hrest

/-! ## Scanning -/

/-- Scans for keywords and commas pass a layout without them. -/
theorem free (h : Layout ts text) (hwords : sought ⊆ reservedWords)
    (hkeywords : ∀ k, .keyword k ∈ ts → k.text ∉ sought) (hsigns : ∀ c ∈ signs, c = ',')
    (hcomma : .comma ∈ ts → signs = []) : Free sought signs text := by
  have hblank : ∀ c ∈ signs, isBlank c = false := fun c hc => hsigns c hc ▸ by decide
  induction h with
  | nil hgap => exact .of_blanks hgap hblank
  | @cons t ts gap s rest hgap hs hends _ ih =>
      have hsfree : Free sought signs s := hs.free hwords
        (fun k ht => hkeywords k (ht ▸ List.mem_cons_self)) hsigns
        fun ht => hcomma (ht ▸ List.mem_cons_self)
      have hrest : Free sought signs rest :=
        ih (fun k hk => hkeywords k (List.mem_cons_of_mem _ hk))
        fun hc => hcomma (List.mem_cons_of_mem _ hc)
      have hborder : startsWord s.getLast? = true ∨ endsWord rest = true := by
        cases ht : t.isWord with
        | false => exact .inl (hs.startsWord_last ht)
        | true => exact .inr (endsWord_of_endsToken (hends ht))
      exact (Free.of_blanks hgap hblank).append (hsfree.append hrest hborder)
        (.inl (startsWord_of_blanks hgap))

/-- A layout is cut at any of its tokens. -/
theorem split (h : Layout (pre ++ t :: post) text) :
    ∃ before s after, text = before ++ (s ++ after) ∧ Layout pre before ∧ Spelled t s ∧
      Layout post after ∧ (t.isWord = true → endsToken after = true) ∧
      (startsWord before.getLast? = true ∨ endsWord s = true) := by
  induction pre generalizing text with
  | nil =>
      cases h with
      | @cons _ _ gap s rest hgap hs hends hrest =>
          exact ⟨gap, s, rest, rfl, .nil hgap, hs, hrest, hends, .inl (startsWord_of_blanks hgap)⟩
  | cons p pre ih =>
      cases h with
      | @cons _ _ gap sp rest hgap hsp hpends hrest =>
          obtain ⟨before, s, after, rfl, hbefore, hs, hafter, hends, hborder⟩ := ih hrest
          refine ⟨gap ++ (sp ++ before), s, after, by simp, .cons hgap hsp ?_ hbefore, hs, hafter,
            hends, ?_⟩
          · intro hp
            have := hpends hp
            cases before with
            | nil => rfl
            | cons c before => exact this
          · cases before with
            | cons c before =>
                rwa [startsWord_append gap (by simp),
                  startsWord_append sp (List.cons_ne_nil c before)]
            | nil =>
                rw [List.append_nil, startsWord_append gap hsp.ne_nil,
                  ← endsWord_append hs.ne_nil after]
                cases hp : p.isWord with
                | false => exact .inl (hsp.startsWord_last hp)
                | true => exact .inr (endsWord_of_endsToken (hpends hp))

/-! ## Keywords -/

/-- A place in a scan where no word goes on. -/
theorem startsWord_head_append {before : List Char}
    (hfront : startsWord passed.head? = true ∨ endsWord (before ++ (s ++ rest)) = true)
    (hs : endsWord (s ++ rest) = false) (hbefore : startsWord before.getLast? = true) :
    startsWord (before.reverse ++ passed).head? = true := by
  rcases List.eq_nil_or_concat before with rfl | ⟨init, c, rfl⟩
  · exact hfront.resolve_right (by simp [hs])
  · simpa using hbefore

/-- The scan for keywords that are not among the tokens finds nothing. -/
theorem occurrencesFrom_nil (h : Layout ts text) (hm : m.Finds sought further)
    (hwords : sought ⊆ reservedWords) (hkeywords : ∀ k, .keyword k ∈ ts → k.text ∉ sought)
    (hfront : startsWord passed.head? = true ∨ endsWord text = true) :
    occurrencesFrom m .top passed text = [] := by
  have hfree : Free sought [] text := h.free hwords hkeywords (by simp) (by simp)
  have hpass := @Pattern.occurrencesFrom_free _ _ _ _ _ hm hfree passed []
    (by simpa using hfront) (.inr rfl)
  rw [List.append_nil] at hpass
  rw [hpass, occurrencesFrom]

/-- Behind a layout the scan finds a keyword, and goes on behind it. -/
theorem occurrencesFrom_append_keyword {before : List Char} (hbefore : Layout pre before)
    (hs : Spelled (.keyword k) s) (hends : endsToken rest = true)
    (hborder : startsWord before.getLast? = true ∨ endsWord s = true) (hm : m.Finds sought further)
    (hwords : sought ⊆ reservedWords) (hpre : ∀ k, .keyword k ∈ pre → k.text ∉ sought)
    (hk : k.text ∈ sought)
    (hfront : startsWord passed.head? = true ∨ endsWord (before ++ (s ++ rest)) = true) :
    occurrencesFrom m .top passed (before ++ (s ++ rest)) =
      ((further rest).map (⟨passed.reverse ++ before, ·⟩)).toList
        ++ occurrencesFrom m .top (s.reverse ++ (before.reverse ++ passed)) rest := by
  have hfree : Free sought [] before := hbefore.free hwords hpre (by simp) (by simp)
  -- The keyword starts with a letter, so no word goes on before it.
  have hletter : endsWord s = false := by
    obtain ⟨c, s, rfl⟩ := List.exists_cons_of_ne_nil hs.ne_nil
    simp [hs.keyword_word c List.mem_cons_self]
  have hstarts : startsWord (before.reverse ++ passed).head? = true :=
    startsWord_head_append hfront (by rw [endsWord_append hs.ne_nil, hletter])
      (hborder.resolve_right (by simp [hletter]))
  rw [Pattern.occurrencesFrom_free hm hfree hfront (.inl hstarts),
    Pattern.occurrencesFrom_word hm hs.ne_nil hs.keyword_word hstarts (endsWord_of_endsToken hends),
    hs.isOneOf_keyword, if_pos (by simpa using hk)]
  simp

/-- The scan goes on behind a keyword that it finds. -/
theorem occurrencesFrom_keyword (h : Layout (pre ++ .keyword k :: post) text)
    (hm : m.Finds sought further) (hwords : sought ⊆ reservedWords)
    (hpre : ∀ k, .keyword k ∈ pre → k.text ∉ sought) (hk : k.text ∈ sought)
    (hfront : startsWord passed.head? = true ∨ endsWord text = true) :
    ∃ before s after, text = before ++ (s ++ after) ∧ Layout pre before ∧ Layout post after ∧
      endsToken after = true ∧
      occurrencesFrom m .top passed text =
        ((further after).map (⟨passed.reverse ++ before, ·⟩)).toList
          ++ occurrencesFrom m .top (s.reverse ++ (before.reverse ++ passed)) after := by
  obtain ⟨before, s, after, rfl, hbefore, hs, hafter, hends, hborder⟩ := h.split
  exact ⟨before, s, after, rfl, hbefore, hafter, hends rfl,
    hbefore.occurrencesFrom_append_keyword hs (hends rfl) hborder hm hwords hpre hk hfront⟩

/-- What has to follow a keyword is there, and a layout of the tokens behind it follows. -/
def Follows (further : List Char → Option (List Char)) (post : List Token) : Prop :=
  ∀ after, Layout post after → endsToken after = true →
    ∃ rest, further after = some rest ∧ Layout post rest

theorem follows_some : Follows some post := fun after hafter _ => ⟨after, rfl, hafter⟩

/-- The first keyword is found where its token stands. -/
theorem first?_keyword (h : Layout (pre ++ .keyword k :: post) text) (hm : m.Finds sought further)
    (hwords : sought ⊆ reservedWords) (hpre : ∀ k, .keyword k ∈ pre → k.text ∉ sought)
    (hk : k.text ∈ sought) (hfollows : Follows further post) :
    ∃ found, Pattern.first? m text = some found ∧ Layout pre found.before ∧
      Layout post found.after := by
  obtain ⟨before, s, after, -, hbefore, hafter, hends, hfound⟩ :=
    @occurrencesFrom_keyword _ _ _ _ [] _ _ _ h hm hwords hpre hk (.inl rfl)
  obtain ⟨rest, hrest, hlayout⟩ := hfollows after hafter hends
  refine ⟨⟨before, rest⟩, ?_, hbefore, hlayout⟩
  rw [Pattern.first?_eq_head?, Pattern.occurrences, hfound, hrest]
  rfl

/-- No keyword is found where no token is one. -/
theorem first?_eq_none (h : Layout ts text) (hm : m.Finds sought further)
    (hwords : sought ⊆ reservedWords) (hkeywords : ∀ k, .keyword k ∈ ts → k.text ∉ sought) :
    Pattern.first? m text = none := by
  rw [Pattern.first?_eq_head?, Pattern.occurrences,
    h.occurrencesFrom_nil hm hwords hkeywords (.inl rfl)]
  rfl

/-- The text before the first keyword, or all of it, is a layout of the tokens before it. -/
theorem textBefore (h : Layout (pre ++ post) text) (hm : m.Finds sought some)
    (hwords : sought ⊆ reservedWords) (hpre : ∀ k, .keyword k ∈ pre → k.text ∉ sought)
    (hpost : post = [] ∨ ∃ k rest, post = .keyword k :: rest ∧ k.text ∈ sought) :
    Layout pre (Pattern.textBefore m text) := by
  rcases hpost with rfl | ⟨k, rest, rfl, hk⟩
  · rw [List.append_nil] at h
    rw [Pattern.textBefore, h.first?_eq_none hm hwords hpre]
    exact h
  · obtain ⟨found, hfound, hbefore, -⟩ := h.first?_keyword hm hwords hpre hk follows_some
    rw [Pattern.textBefore, hfound]
    exact hbefore

/-! ## List entries -/

/-- A list is cut at its commas. -/
theorem splitTop {entries : List (List Token)} (h : Layout (separated entries) text)
    (hne : entries ≠ []) (hcomma : ∀ entry ∈ entries, .comma ∉ entry) :
    List.Forall₂ Layout entries (Pattern.splitTop ',' text) := by
  have hfree : ∀ {entry s}, .comma ∉ entry → Layout entry s → Free [] [','] s := fun hentry hs =>
    hs.free (List.nil_subset _) (by simp) (by simp) fun hc => absurd hc hentry
  induction entries generalizing text with
  | nil => exact absurd rfl hne
  | cons entry entries ih =>
      have hentry := hcomma entry List.mem_cons_self
      cases entries with
      | nil =>
          rw [Pattern.splitTop_free (hfree hentry h) (by decide)]
          exact .cons h .nil
      | cons next entries =>
          obtain ⟨before, s, after, rfl, hbefore, hs, hafter, -, -⟩ := h.split
          cases hs
          rw [List.singleton_append, Pattern.splitTop_cons (hfree hentry hbefore) (by decide)]
          exact .cons hbefore (ih hafter (List.cons_ne_nil _ _)
            fun e he => hcomma e (List.mem_cons_of_mem _ he))

/-! ## Blanks -/

/-- The first token of a layout starts behind the blanks. -/
theorem trimFront_cons (h : Layout (t :: ts) text) :
    ∃ s rest, Text.trimFront text = s ++ rest ∧ Spelled t s ∧
      (t.isWord = true → endsToken rest = true) ∧ Layout ts rest := by
  cases h with
  | cons hgap hs hends hrest => exact ⟨_, _, hs.trimFront_append hgap _, hs, hends, hrest⟩

theorem blank_nil (h : Layout [] text) : ∀ c ∈ text, isBlank c = true := by
  cases h with
  | nil hgap => exact hgap

/-- Between two words there are blanks. -/
theorem blank_cons (h : Layout (t :: ts) text) (ht : t.isWord = true)
    (hends : endsToken text = true) :
    ∃ b gap s rest, text = b :: gap ++ (s ++ rest) ∧ (∀ c ∈ b :: gap, isBlank c = true) ∧
      Spelled t s ∧ endsToken rest = true ∧ Layout ts rest := by
  cases h with
  | @cons _ _ gap s rest hgap hs hsends hrest =>
      cases gap with
      | nil => simp [hs.not_endsToken ht] at hends
      | cons b gap => exact ⟨b, gap, s, rest, rfl, hgap, hs, hsends ht, hrest⟩

theorem follows_afterBlanks (ht : t.isWord = true) :
    Follows Pattern.afterBlanks? (t :: ts) := by
  intro after hafter hends
  obtain ⟨b, gap, s, rest, rfl, hgap, hs, hsends, hrest⟩ := hafter.blank_cons ht hends
  exact ⟨s ++ rest, hs.afterBlanks?_append hgap rest, .of_token hs (fun _ => hsends) hrest⟩

protected theorem trimFront (h : Layout ts text) : Layout ts (Text.trimFront text) := by
  cases h with
  | nil hgap =>
      rw [← List.append_nil text, Text.trimFront_blanks_append hgap]
      exact .nil (by simp)
  | cons hgap hs hends hrest =>
      rw [hs.trimFront_append hgap]
      exact .of_token hs hends hrest

theorem endsToken_trimBack (h : endsToken text = true) : endsToken (Text.trimBack text) = true := by
  have hpre : Text.trimBack text <+: text := by
    rw [← List.reverse_suffix, Text.trimBack, List.reverse_reverse]
    exact List.dropWhile_suffix _
  obtain ⟨rest, hrest⟩ := hpre
  cases htrim : Text.trimBack text with
  | nil => rfl
  | cons c s =>
      rw [htrim] at hrest
      rw [← hrest] at h
      exact h

protected theorem trimBack (h : Layout ts text) : Layout ts (Text.trimBack text) := by
  induction h with
  | nil hgap =>
      rw [Text.trimBack_blanks hgap]
      exact .nil (by simp)
  | cons hgap hs hends _ ih =>
      rw [hs.trimBack_append]
      exact .cons hgap hs (fun ht => endsToken_trimBack (hends ht)) ih

/-- The blanks around a layout do not count. -/
protected theorem trimChars (h : Layout ts text) : Layout ts (Text.trimChars text) :=
  h.trimFront.trimBack

/-- A single token is all but the blanks. -/
theorem spelled (h : Layout [t] text) : Spelled t (Text.trimChars text) := by
  obtain ⟨s, rest, htrim, hs, -, hrest⟩ := h.trimFront_cons
  cases hrest with
  | nil hrest =>
      have hback : Text.trimBack (s ++ rest) = s := by
        simpa [Text.trimBack_blanks hrest] using hs.trimBack_append [] rest
      rwa [Text.trimChars, htrim, hback]

/-- The words of a layout of names are its tokens. -/
protected theorem words (h : Layout ts text) (hnames : ∀ t ∈ ts, t.isName = true) :
    List.Forall₂ Spelled ts (Text.words text) := by
  induction h with
  | @nil gap hgap =>
      rw [← List.append_nil gap, Text.words_blanks_append hgap]
      exact .nil
  | @cons t ts gap s rest hgap hs hends hrest ih =>
      have ht : t.isName = true := hnames t List.mem_cons_self
      have hts : ∀ t ∈ ts, t.isName = true := fun t ht => hnames t (List.mem_cons_of_mem _ ht)
      have hblank : rest.head?.all isBlank = true := by
        cases ts with
        | nil =>
            cases rest with
            | nil => rfl
            | cons c rest => exact hrest.blank_nil c List.mem_cons_self
        | cons next ts =>
            have hnext : next.isWord = true := Token.isWord_of_isName (hts next List.mem_cons_self)
            obtain ⟨b, gap, s, rest, rfl, hgap, -⟩ :=
              hrest.blank_cons hnext (hends (Token.isWord_of_isName ht))
            exact hgap b List.mem_cons_self
      rw [Text.words_blanks_append hgap, Text.words_append hs.ne_nil (hs.no_blank ht) hblank]
      exact .cons hs (ih hts)

/-! ## Ends of a text -/

theorem last_edge (h : Layout ts text) (hne : ts ≠ []) :
    ∃ before c, Text.trimBack text = before ++ [c] ∧ isEdge c = true := by
  induction h with
  | nil => exact absurd rfl hne
  | @cons t ts gap s rest hgap hs _ hrest ih =>
      rw [hs.trimBack_append]
      cases ts with
      | nil =>
          obtain ⟨before, c, rfl, hc⟩ := hs.last_edge
          exact ⟨gap ++ before, c, by simp [Text.trimBack_blanks hrest.blank_nil], hc⟩
      | cons next ts =>
          obtain ⟨before, c, hlast, hc⟩ := ih (List.cons_ne_nil _ _)
          exact ⟨gap ++ (s ++ before), c, by simp [hlast], hc⟩

/-- Nothing but blanks is taken off before a layout is read. -/
protected theorem prepare (h : Layout ts text) (hne : ts ≠ []) :
    Layout ts (Pattern.prepare text) := by
  have hfree : Free [] [] text := h.free (List.nil_subset _) (by simp) (by simp) (by simp)
  obtain ⟨before, c, hlast, hc⟩ := h.trimFront.last_edge hne
  have hsemicolon : c ≠ ';' := (ne_of_isEdge hc).2.2
  have htrim : Layout ts (before ++ [c]) := hlast ▸ h.trimChars
  rw [Pattern.prepare, Pattern.withoutComments_free hfree, Text.trimChars, hlast]
  simpa [hsemicolon] using htrim.trimBack

end Layout

/-! ## A layout of every statement -/

/-- One text of a token: keywords in lower case, and names without delimiters. -/
def Token.spelling : Token → List Char
  | keyword k => k.text.toList
  | comma => [',']
  | star => ['*']
  | table n => n.chars
  | column ⟨none, n⟩ => n.chars
  | column ⟨some q, n⟩ => q.chars ++ '.' :: n.chars
  | name n => n.chars
  | operator o => o.sign.toList
  | literal l => '\'' :: (l.text.toList ++ ['\''])

theorem Token.spelled : (t : Token) → Spelled t t.spelling
  | keyword k => .keyword (by cases k <;> decide)
  | comma => .comma
  | star => .star
  | table _ => .table [] (.one .bare)
  | column ⟨none, _⟩ => .column .bare
  | column ⟨some _, _⟩ => .qualified [] (.cons .bare (.one .bare))
  | name _ => .name .bare
  | operator o => .operator o
  | literal l => .literal l

/-- The tokens with a space behind each of them. -/
def spaced : List Token → List Char
  | [] => []
  | t :: ts => t.spelling ++ ' ' :: spaced ts

/-- A blank in front of a layout does not count. -/
theorem Layout.cons_blank {ts : List Token} {text : List Char} (h : Layout ts text) {b : Char}
    (hb : isBlank b = true) : Layout ts (b :: text) := by
  cases h with
  | nil hgap => exact .nil (List.forall_mem_cons.2 ⟨hb, hgap⟩)
  | @cons t ts gap s rest hgap hs hends hrest =>
      exact @Layout.cons t ts (b :: gap) s rest (List.forall_mem_cons.2 ⟨hb, hgap⟩) hs hends hrest

theorem layout_spaced (ts : List Token) : Layout ts (spaced ts) := by
  induction ts with
  | nil => exact .nil nofun
  | cons t ts ih => exact .of_token t.spelled (fun _ => rfl) (ih.cons_blank rfl)

end JoinGraph.Plain
