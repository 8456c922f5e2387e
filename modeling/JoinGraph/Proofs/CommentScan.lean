import JoinGraph.Pattern.Comment

/-!
# Where a scan for comments stands

`withoutComments` looks ahead and drops a comment as a whole.  `Place` says, one character at a
time, where in a text the scan stands: outside of quotes and comments, or inside of one.  What
follows a text that ends outside is read as if it stood alone.

## Main results

* `withoutComments_append` — comments are dropped from two texts as from each of them.
* `quote_after_withoutComments` — where a text without comments ends, no quote is open.
-/

namespace JoinGraph.Pattern

/-! ## Places -/

/-- Where a scan for comments stands. -/
inductive Place where
  | code
  /-- behind a hyphen that may start a comment -/
  | hyphen
  /-- behind a slash that may start a comment -/
  | slash
  | quoted (opening : Char)
  | line
  | block
  /-- in a block comment, behind an asterisk that may end it -/
  | star
  deriving DecidableEq, Repr

namespace Place

/-- Behind a character that stands outside of quotes and comments. -/
def behind (c : Char) : Place :=
  if isQuote c then quoted c else if c = '-' then hyphen else if c = '/' then slash else code

/-- One character further. -/
def step : Place → Char → Place
  | code, c => behind c
  | hyphen, c => if c = '-' then line else behind c
  | slash, c => if c = '*' then block else behind c
  | quoted opening, c => if c = opening then code else quoted opening
  | line, c => if c = '\n' then code else line
  | block, c => if c = '*' then star else block
  | star, c => if c = '/' then code else if c = '*' then star else block

/-- Where the scan stands after a text. -/
def after (p : Place) (s : List Char) : Place := s.foldl step p

/-- Whether the scan stands outside of quotes and comments. -/
def isOutside : Place → Bool
  | code => true
  | hyphen => true
  | slash => true
  | _ => false

/-- Inside of a quote, or outside of quotes. -/
def ofQuote : Option Char → Place
  | some opening => quoted opening
  | none => code

end Place

/-- A text at whose end no quote and no comment is open. -/
def EndsOutside (s : List Char) : Prop := (Place.code.after s).isOutside = true

instance (s : List Char) : Decidable (EndsOutside s) := inferInstanceAs (Decidable (_ = _))

/-! ## Behind comments -/

/-- A line comment is left at its line break. -/
theorem afterLine_append {s : List Char} (h : (Place.line.after s).isOutside = true)
    (t : List Char) :
    afterLine (s ++ t) = afterLine s ++ t ∧
      Place.code.after (afterLine s) = Place.line.after s := by
  induction s with
  | nil => cases h
  | cons c s ih =>
      by_cases hc : c = '\n'
      · subst hc
        exact ⟨rfl, rfl⟩
      · have hstep : Place.line.after (c :: s) = Place.line.after s := by
          simp [Place.after, Place.step, hc]
        rw [hstep] at h ⊢
        simpa [afterLine, hc] using ih h

/-- A block comment is left at its end. -/
theorem afterBlock_append {s : List Char} (h : (Place.block.after s).isOutside = true)
    (t : List Char) :
    afterBlock (s ++ t) = afterBlock s ++ t ∧ Place.code.after (afterBlock s) =
      Place.block.after s := by
  fun_induction afterBlock s with
  | case1 rest => exact ⟨rfl, rfl⟩
  | case3 => cases h
  | case2 c rest hopen ih =>
      -- An asterisk that does not end the comment could as well be any other character.
      have hstep : Place.block.after (c :: rest) = Place.block.after rest := by
        by_cases hc : c = '*'
        · subst hc
          cases rest with
          | nil => cases h
          | cons d rest =>
              have hd : d ≠ '/' := fun hd => hopen rest rfl (hd ▸ rfl)
              simp [Place.after, Place.step, hd]
        · simp [Place.after, Place.step, hc]
      rw [hstep] at h ⊢
      have hne : rest ≠ [] := by
        rintro rfl
        cases h
      obtain ⟨d, rest, rfl⟩ := List.exists_cons_of_ne_nil hne
      have hcons : afterBlock (c :: (d :: rest ++ t)) = afterBlock (d :: rest ++ t) := by
        rw [afterBlock]
        rintro tail rfl htail
        obtain ⟨rfl, -⟩ := List.cons.inj htail
        exact hopen rest rfl rfl
      rw [List.cons_append, hcons]
      exact ih h

/-! ## Texts in a row -/

/-- A character that starts no comment is scanned as if it stood alone, if another one follows
it. -/
theorem after_cons {c : Char} {rest : List Char} (hne : rest ≠ [])
    (hline : c = '-' → rest.head? ≠ some '-') (hblock : c = '/' → rest.head? ≠ some '*') :
    Place.code.after (c :: rest) =
      (Place.ofQuote (if isQuote c then some c else none)).after rest := by
  have hcons : Place.code.after (c :: rest) = (Place.behind c).after rest := rfl
  obtain ⟨d, rest, rfl⟩ := List.exists_cons_of_ne_nil hne
  rw [hcons, Place.behind]
  by_cases hquote : isQuote c = true
  · simp [hquote, Place.ofQuote]
  · simp only [hquote, Place.ofQuote]
    by_cases hdash : c = '-'
    · have hd : d ≠ '-' := by simpa using hline hdash
      simp [hdash, Place.after, Place.step, hd]
    · by_cases hslash : c = '/'
      · have hd : d ≠ '*' := by simpa using hblock hslash
        simp [hslash, Place.after, Place.step, hd]
      · simp [hdash, hslash]

theorem isOutside_after_cons {c : Char} {rest : List Char}
    (hline : c = '-' → rest.head? ≠ some '-') (hblock : c = '/' → rest.head? ≠ some '*') :
    (Place.code.after (c :: rest)).isOutside =
      ((Place.ofQuote (if isQuote c then some c else none)).after rest).isOutside := by
  cases rest with
  | nil =>
      show (Place.behind c).isOutside =
        (Place.ofQuote (if isQuote c then some c else none)).isOutside
      by_cases hquote : isQuote c = true
      · rw [Place.behind, if_pos hquote, if_pos hquote]
        rfl
      · rw [Place.behind, if_neg hquote, if_neg hquote]
        split
        · rfl
        · split <;> rfl
  | cons d rest => rw [after_cons (List.cons_ne_nil d rest) hline hblock]

/-- A character that starts no comment is kept. -/
theorem withoutCommentsFrom_keep {c : Char} {rest : List Char}
    (hline : c = '-' → rest.head? ≠ some '-') (hblock : c = '/' → rest.head? ≠ some '*') :
    withoutCommentsFrom none (c :: rest) =
      c :: withoutCommentsFrom (if isQuote c then some c else none) rest := by
  rw [withoutCommentsFrom]
  · rintro tail rfl rfl
    exact hline rfl rfl
  · rintro tail rfl rfl
    exact hblock rfl rfl

theorem head?_ne_of_not_cons {rest : List Char} {d : Char} (h : ∀ tail, rest = d :: tail → False) :
    rest.head? ≠ some d := fun hhead => by
  obtain ⟨tail, htail⟩ := List.head?_eq_some_iff.1 hhead
  exact h tail htail

theorem head?_append_ne {rest t : List Char} {d : Char} (hrest : rest.head? ≠ some d)
    (ht : rest = [] → t.head? ≠ some d) : (rest ++ t).head? ≠ some d := by
  cases rest with
  | nil => exact ht rfl
  | cons c rest => exact hrest

/-- No comment opens across the border of two texts. -/
structure Apart (p : Place) (t : List Char) : Prop where
  line : p = .hyphen → t.head? ≠ some '-'
  block : p = .slash → t.head? ≠ some '*'

/-- Behind a character that starts no comment the border is what it was. -/
theorem Apart.of_cons {c : Char} {rest t : List Char} (hline : c = '-' → rest.head? ≠ some '-')
    (hblock : c = '/' → rest.head? ≠ some '*') (h : Apart (Place.code.after (c :: rest)) t) :
    Apart ((Place.ofQuote (if isQuote c then some c else none)).after rest) t := by
  cases rest with
  | nil =>
      show Apart (Place.ofQuote (if isQuote c then some c else none)) t
      cases isQuote c with
      | true => exact ⟨nofun, nofun⟩
      | false => exact ⟨nofun, nofun⟩
  | cons d rest => exact after_cons (List.cons_ne_nil d rest) hline hblock ▸ h

theorem withoutCommentsFrom_append {quote : Option Char} {s t : List Char}
    (hs : ((Place.ofQuote quote).after s).isOutside = true)
    (hapart : Apart ((Place.ofQuote quote).after s) t) :
    withoutCommentsFrom quote (s ++ t) =
      withoutCommentsFrom quote s ++ withoutCommentsFrom none t := by
  fun_induction withoutCommentsFrom quote s with
  | case1 quote =>
      cases quote with
      | none => rfl
      | some opening => cases hs
  | case2 opening c rest ih =>
      have hstep : (Place.ofQuote (some opening)).after (c :: rest) =
          (Place.ofQuote (if c = opening then none else some opening)).after rest := by
        by_cases hc : c = opening <;> simp [Place.after, Place.step, Place.ofQuote, hc]
      rw [hstep] at hs hapart
      simp only [dite_eq_ite] at ih
      rw [List.cons_append, withoutCommentsFrom, ih hs hapart, List.cons_append]
  | case3 rest ih =>
      obtain ⟨happend, hafter⟩ := afterLine_append (s := rest) hs t
      have hskip : withoutCommentsFrom none ('-' :: '-' :: (rest ++ t)) =
          ' ' :: withoutCommentsFrom none (afterLine (rest ++ t)) := by
        rw [withoutCommentsFrom]
      rw [List.cons_append, List.cons_append, hskip, happend, ih (hafter ▸ hs) (hafter ▸ hapart),
        List.cons_append]
  | case4 rest ih =>
      obtain ⟨happend, hafter⟩ := afterBlock_append (s := rest) hs t
      have hskip : withoutCommentsFrom none ('/' :: '*' :: (rest ++ t)) =
          ' ' :: withoutCommentsFrom none (afterBlock (rest ++ t)) := by
        rw [withoutCommentsFrom]
      rw [List.cons_append, List.cons_append, hskip, happend, ih (hafter ▸ hs) (hafter ▸ hapart),
        List.cons_append]
  | case5 c rest hnotLine hnotBlock ih =>
      have hline : c = '-' → rest.head? ≠ some '-' := fun hc =>
        head?_ne_of_not_cons fun tail => hnotLine tail hc
      have hblock : c = '/' → rest.head? ≠ some '*' := fun hc =>
        head?_ne_of_not_cons fun tail => hnotBlock tail hc
      have hline' : c = '-' → (rest ++ t).head? ≠ some '-' := by
        rintro rfl
        refine head?_append_ne (hline rfl) ?_
        rintro rfl
        exact hapart.line rfl
      have hblock' : c = '/' → (rest ++ t).head? ≠ some '*' := by
        rintro rfl
        refine head?_append_ne (hblock rfl) ?_
        rintro rfl
        exact hapart.block rfl
      simp only [dite_eq_ite] at ih
      rw [List.cons_append, withoutCommentsFrom_keep hline' hblock',
        ih ((isOutside_after_cons hline hblock).symm.trans hs) (hapart.of_cons hline hblock),
        List.cons_append]

/-- Comments are dropped from two texts as from each of them, if the first ends outside. -/
theorem withoutComments_append {s t : List Char} (hs : EndsOutside s) (hline : t.head? ≠ some '-')
    (hblock : t.head? ≠ some '*') :
    withoutComments (s ++ t) = withoutComments s ++ withoutComments t :=
  @withoutCommentsFrom_append none s t hs ⟨fun _ => hline, fun _ => hblock⟩

/-- A hyphen that may start a comment is the last character of the text before. -/
theorem Place.step_eq_hyphen {p : Place} {c : Char} (h : p.step c = .hyphen) : c = '-' := by
  have hbehind : ∀ {c : Char}, behind c = hyphen → c = '-' := by
    intro c hc
    rw [behind] at hc
    split at hc
    · cases hc
    · split at hc
      · assumption
      · split at hc <;> cases hc
  cases p with
  | code => exact hbehind h
  | hyphen | slash =>
      rw [step] at h
      split at h
      · cases h
      · exact hbehind h
  | quoted | line | block =>
      rw [step] at h
      split at h <;> cases h
  | star =>
      rw [step] at h
      split at h
      · cases h
      · split at h <;> cases h

theorem getLast?_of_after_eq_hyphen {s : List Char} (h : Place.code.after s = .hyphen) :
    s.getLast? = some '-' := by
  rcases List.eq_nil_or_concat s with rfl | ⟨front, c, rfl⟩
  · cases h
  · rw [Place.after, List.concat_eq_append, List.foldl_append] at h
    rw [List.concat_eq_append, List.getLast?_append, Place.step_eq_hyphen h]
    rfl

/-! ## Open quotes -/

theorem quote_step_of_some {n : Nesting} {opening : Char} (h : n.quote = some opening) (c : Char) :
    (n.step c).quote = if c = opening then none else some opening := by
  by_cases hc : c = opening <;> simp [Nesting.step, h, hc]

theorem quote_step_of_none {n : Nesting} (h : n.quote = none) (c : Char) :
    (n.step c).quote = if isQuote c then some c else none := by
  by_cases hc : isQuote c = true
  · simp [Nesting.step, h, hc]
  · simp only [Nesting.step, h, hc]
    by_cases hopen : c = '(' <;> by_cases hclose : c = ')' <;> simp [hopen, hclose, h]

/-- Outside of quotes a space changes nothing. -/
theorem step_space {n : Nesting} (h : n.quote = none) : n.step ' ' = n := by
  simp [Nesting.step, h, isQuote]

theorem quote_after_withoutCommentsFrom {quote : Option Char} {s : List Char} {n : Nesting}
    (hn : n.quote = quote) (hs : ((Place.ofQuote quote).after s).isOutside = true) :
    (n.after (withoutCommentsFrom quote s)).quote = none := by
  have hblank : ∀ {n : Nesting} (s : List Char), n.quote = none →
      n.after (' ' :: s) = n.after s := by
    intro n s hn
    rw [Nesting.after, List.foldl_cons, step_space hn, Nesting.after]
  fun_induction withoutCommentsFrom quote s generalizing n with
  | case1 quote =>
      cases quote with
      | none => exact hn
      | some opening => cases hs
  | case2 opening c rest ih =>
      simp only [dite_eq_ite] at ih
      refine @ih (n.step c) (quote_step_of_some hn c) ?_
      by_cases hc : c = opening <;> simpa [Place.after, Place.step, Place.ofQuote, hc] using hs
  | case3 rest ih =>
      obtain ⟨-, hafter⟩ := afterLine_append (s := rest) hs []
      rw [hblank _ hn]
      exact ih hn (hafter ▸ hs)
  | case4 rest ih =>
      obtain ⟨-, hafter⟩ := afterBlock_append (s := rest) hs []
      rw [hblank _ hn]
      exact ih hn (hafter ▸ hs)
  | case5 c rest hnotLine hnotBlock ih =>
      simp only [dite_eq_ite] at ih
      refine @ih (n.step c) (quote_step_of_none hn c) ?_
      exact (isOutside_after_cons (fun hc => head?_ne_of_not_cons fun tail => hnotLine tail hc)
        fun hc => head?_ne_of_not_cons fun tail => hnotBlock tail hc).symm.trans hs

/-- Where a text without comments ends, no quote is open. -/
theorem quote_after_withoutComments {s : List Char} (hs : EndsOutside s) {n : Nesting}
    (hn : n.quote = none) : (n.after (withoutComments s)).quote = none :=
  quote_after_withoutCommentsFrom hn hs

end JoinGraph.Pattern
