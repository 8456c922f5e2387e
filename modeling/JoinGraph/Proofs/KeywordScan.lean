import JoinGraph.Proofs.WordMatch

/-!
# Scanning for keywords

A text is scanned in pieces: words, single signs, and quoted texts.  A keyword is found at a word
that is equal to it, so a text none of whose words is a keyword (`Free`) is passed over: the scan
goes on behind it as if it had started there.  So do the search for commas and the search for
comments.

## Main results

* `occurrencesFrom_free`, `splitTopFrom_free`, `withoutComments_free` — the scans pass a free text.
* `occurrencesFrom_word` — what is found at a word.
* `Free.append` — texts in a row.
-/

namespace JoinGraph.Pattern

open Text (isWordPart isBlank foldLower)

/-! ## Texts without a keyword -/

/-- A character that is neither in a word nor opens a quote, a parenthesis or a comment. -/
def isPlainSign (c : Char) : Bool :=
  !isWordPart c && !isQuote c && !(c == '(' || c == ')' || c == '-' || c == '/')

/--
A text of words, single signs and quoted texts, where no word is one of `words` and no sign is one
of `signs`.  Quoted texts do not matter.
-/
inductive Free (words : List String) (signs : List Char) : List Char → Prop where
  | nil : Free words signs []
  | sign {c : Char} {rest : List Char} (hc : isPlainSign c = true) (hsigns : c ∉ signs)
      (hrest : Free words signs rest) : Free words signs (c :: rest)
  | word {run rest : List Char} (hne : run ≠ []) (hrun : ∀ c ∈ run, isWordPart c = true)
      (hwords : isOneOf words run = false) (hends : endsWord rest = true)
      (hrest : Free words signs rest) : Free words signs (run ++ rest)
  | quoted {quote : Char} {body rest : List Char} (hquote : isQuote quote = true)
      (hbody : quote ∉ body) (hrest : Free words signs rest) :
      Free words signs (quote :: (body ++ quote :: rest))

theorem not_isWordPart_of_isPlainSign {c : Char} (h : isPlainSign c = true) :
    isWordPart c = false := by
  simp only [isPlainSign, Bool.and_eq_true, Bool.not_eq_true'] at h
  exact h.1.1

theorem not_isWordPart_of_isQuote {c : Char} (h : isQuote c = true) : isWordPart c = false := by
  simp only [isQuote, Bool.or_eq_true, beq_iff_eq] at h
  rcases h with (rfl | rfl) | rfl <;> decide

theorem isPlainSign_of_isBlank {c : Char} (h : isBlank c = true) : isPlainSign c = true := by
  have hall : isQuote c = false ∧ (c == '(' || c == ')' || c == '-' || c == '/') = false := by
    constructor
    · simp only [isQuote, Bool.or_eq_false_iff, beq_eq_false_iff_ne]
      refine ⟨⟨?_, ?_⟩, ?_⟩ <;> (rintro rfl; revert h; decide)
    · simp only [Bool.or_eq_false_iff, beq_eq_false_iff_ne]
      refine ⟨⟨⟨?_, ?_⟩, ?_⟩, ?_⟩ <;> (rintro rfl; revert h; decide)
  simp [isPlainSign, Text.isWordPart_of_isBlank h, hall]

namespace Free

variable {words : List String} {signs s t : List Char}

/-- Free texts in a row are free unless a word runs from one into the next. -/
theorem append (hs : Free words signs s) (ht : Free words signs t)
    (hborder : startsWord s.getLast? = true ∨ endsWord t = true) : Free words signs (s ++ t) := by
  induction hs with
  | nil => exact ht
  | sign hc hsigns _ ih =>
      exact .sign hc hsigns (ih (hborder.imp_left (startsWord_of_append (s := [_]))))
  | @word run rest hne hrun hwords hends _ ih =>
      rw [List.append_assoc]
      cases rest with
      | nil =>
          have hlast : startsWord (run ++ []).getLast? = false := by
            rw [List.append_nil, List.getLast?_eq_some_getLast hne, startsWord_some,
              hrun _ (List.getLast_mem hne)]
            rfl
          exact .word hne hrun hwords (hborder.resolve_left (by rw [hlast]; decide)) ht
      | cons c rest =>
          exact .word hne hrun hwords hends (ih (hborder.imp_left startsWord_of_append))
  | @quoted quote body rest hquote hbody _ ih =>
      have hborder' : startsWord rest.getLast? = true ∨ endsWord t = true := by
        refine hborder.imp_left fun h => startsWord_of_append (s := quote :: (body ++ [quote])) ?_
        simpa using h
      simpa using Free.quoted hquote hbody (ih hborder')

theorem of_blanks (hs : ∀ c ∈ s, isBlank c = true) (hsigns : ∀ c ∈ signs, isBlank c = false) :
    Free words signs s := by
  induction s with
  | nil => exact .nil
  | cons c s ih =>
      have hc : isBlank c = true := hs c List.mem_cons_self
      refine .sign (isPlainSign_of_isBlank hc) (fun hmem => ?_)
        (ih fun d hd => hs d (List.mem_cons_of_mem _ hd))
      simp [hsigns c hmem] at hc

end Free

/-- A free text does not start with one of the words and blanks behind it. -/
theorem Free.afterWord? {words : List String} {signs s : List Char} (hs : Free words signs s)
    {word : String} (hmem : word ∈ words) (hword : IsKeyword word) :
    (Pattern.afterWord? word.toList s).bind afterBlanks? = none := by
  have hrun : ∀ {run rest : List Char}, (∀ c ∈ run, isWordPart c = true) → endsWord rest = true →
      run.map foldLower ≠ word.toList →
      (Pattern.afterWord? word.toList (run ++ rest)).bind afterBlanks? = none :=
        fun hrun hrest hne => by
    rw [bind_afterBlanks?, afterWord?_run hword.letters hrun hrest, if_neg hne]
    rfl
  have hsign : ∀ {c : Char} {rest : List Char}, isWordPart c = false →
      (Pattern.afterWord? word.toList (c :: rest)).bind afterBlanks? = none := fun hc => by
    rw [afterWord?_sign hword hc]
    rfl
  cases hs with
  | nil => exact @hrun [] [] (by simp) rfl hword.1.symm
  | sign hc _ _ => exact hsign (not_isWordPart_of_isPlainSign hc)
  | word _ hparts hwords hends _ =>
      refine hrun hparts hends fun heq => ?_
      simpa [heq] using List.any_eq_false.1 hwords word hmem
  | quoted hquote _ _ => exact hsign (not_isWordPart_of_isQuote hquote)

/-! ## Scanning a text -/

/-- A character that opens nothing, as those of words and plain signs. -/
def isPassive (c : Char) : Bool := isWordPart c || isPlainSign c

theorem isPassive_of_word {c : Char} (h : isWordPart c = true) : isPassive c = true := by
  simp [isPassive, h]

theorem isPassive_of_isPlainSign {c : Char} (h : isPlainSign c = true) : isPassive c = true := by
  simp [isPassive, h]

theorem not_quote_of_isPassive {c : Char} (h : isPassive c = true) : isQuote c = false := by
  cases hq : isQuote c with
  | false => rfl
  | true =>
      have hword := not_isWordPart_of_isQuote hq
      simp [isPassive, isPlainSign, hword, hq] at h

theorem ne_of_isPassive {c : Char} (h : isPassive c = true) :
    c ≠ '(' ∧ c ≠ ')' ∧ c ≠ '-' ∧ c ≠ '/' := by
  refine ⟨?_, ?_, ?_, ?_⟩ <;> (rintro rfl; revert h; decide)

theorem Nesting.step_top {c : Char} (h : isPassive c = true) :
    Nesting.top.step c = Nesting.top := by
  obtain ⟨hopen, hclose, -, -⟩ := ne_of_isPassive h
  simp [Nesting.step, Nesting.top, not_quote_of_isPassive h, hopen, hclose]

theorem Nesting.after_top {s : List Char} (h : ∀ c ∈ s, isPassive c = true) :
    Nesting.top.after s = Nesting.top := by
  induction s with
  | nil => rfl
  | cons c s ih =>
      rw [Nesting.after, List.foldl_cons, Nesting.step_top (h c List.mem_cons_self)]
      exact ih fun d hd => h d (List.mem_cons_of_mem _ hd)

theorem Nesting.step_top_quote {quote : Char} (h : isQuote quote = true) :
    Nesting.top.step quote = ⟨0, some quote⟩ := by
  simp [Nesting.step, Nesting.top, h]

/-- A scan inside of a quote stands there until the quote is closed. -/
theorem Nesting.after_quoted {quote : Char} {s : List Char} (hs : quote ∉ s) (depth : Nat) :
    (⟨depth, some quote⟩ : Nesting).after s = ⟨depth, some quote⟩ := by
  induction s with
  | nil => rfl
  | cons c s ih =>
      have hc : c ≠ quote := fun hc => hs (hc ▸ List.mem_cons_self)
      have hstep : (⟨depth, some quote⟩ : Nesting).step c = ⟨depth, some quote⟩ := by
        simp [Nesting.step, hc]
      rw [Nesting.after, List.foldl_cons, hstep]
      exact ih fun hmem => hs (List.mem_cons_of_mem _ hmem)

theorem Nesting.not_isTop_of_quote {quote : Char} {s : List Char} (hs : quote ∉ s) {depth : Nat} :
    ∀ front, front <+: s → ((⟨depth, some quote⟩ : Nesting).after front).isTop = false := by
  intro front hfront
  rw [Nesting.after_quoted fun hmem => hs (hfront.subset hmem)]
  simp [Nesting.isTop]

section Occurrences

variable {m : Matcher} {words : List String} {signs s : List Char}
  {further : List Char → Option (List Char)}

/-- A place where nothing matches is passed. -/
theorem occurrencesFrom_pass {passed rest : List Char} {c : Char} (hc : isPassive c = true)
    (hmatch : m passed.head? (c :: rest) = none) :
    occurrencesFrom m .top passed (c :: rest) = occurrencesFrom m .top (c :: passed) rest := by
  simp only [occurrencesFrom, Nesting.step_top hc, hmatch, ite_self]

/-- Nothing matches inside of a word. -/
theorem occurrencesFrom_inside (hm : m.Finds words further) {run : List Char}
    (hrun : ∀ c ∈ run, isWordPart c = true) {b : Char} (hb : isWordPart b = true)
    (passed rest : List Char) :
    occurrencesFrom m .top (b :: passed) (run ++ rest) =
      occurrencesFrom m .top (run.reverse ++ b :: passed) rest := by
  induction run generalizing b passed with
  | nil => rfl
  | cons c run ih =>
      have hc : isWordPart c = true := hrun c List.mem_cons_self
      rw [List.cons_append, occurrencesFrom_pass (isPassive_of_word hc) (hm.inside b c _ hb hc),
        ih (fun d hd => hrun d (List.mem_cons_of_mem _ hd)) hc]
      simp

/-- What is found at a word: the word itself, if it is one of those looked for. -/
theorem occurrencesFrom_word (hm : m.Finds words further) {run rest passed : List Char}
    (hne : run ≠ []) (hrun : ∀ c ∈ run, isWordPart c = true)
    (hstarts : startsWord passed.head? = true) (hends : endsWord rest = true) :
    occurrencesFrom m .top passed (run ++ rest) =
      (if isOneOf words run then (further rest).map (⟨passed.reverse, ·⟩) else none).toList
        ++ occurrencesFrom m .top (run.reverse ++ passed) rest := by
  have hmatch := hm.word passed.head? run rest hrun hne hstarts hends
  cases run with
  | nil => exact absurd rfl hne
  | cons c run =>
      have hc : isWordPart c = true := hrun c List.mem_cons_self
      have hinside := occurrencesFrom_inside hm (fun d hd => hrun d (List.mem_cons_of_mem _ hd)) hc
        passed rest
      rw [List.cons_append] at hmatch ⊢
      have htop : Nesting.top.isTop = true := rfl
      rw [occurrencesFrom, hmatch, Nesting.step_top (isPassive_of_word hc), hinside, if_pos htop]
      simp only [List.reverse_cons, List.append_assoc, List.cons_append, List.nil_append]
      by_cases hone : isOneOf words (c :: run) = true
      · simp only [hone, if_true]
        cases further rest <;> rfl
      · simp only [hone]
        rfl

/-- Nothing matches where no place is on the top level. -/
theorem occurrencesFrom_below {n : Nesting} {body : List Char}
    (hbody : ∀ front, front <+: body → (n.after front).isTop = false) (c : Char)
    (passed rest : List Char) :
    occurrencesFrom m n passed (body ++ c :: rest) =
      occurrencesFrom m (n.after (body ++ [c])) (c :: (body.reverse ++ passed)) rest := by
  have hn : n.isTop = false := hbody [] List.nil_prefix
  induction body generalizing n passed with
  | nil =>
      rw [List.nil_append, occurrencesFrom, hn]
      rfl
  | cons d body ih =>
      have hd : ∀ front, front <+: body → ((n.step d).after front).isTop = false :=
        fun front hfront => hbody (d :: front) (List.cons_prefix_cons.2 ⟨rfl, hfront⟩)
      have hfurther := ih hd (d :: passed) (hd [] List.nil_prefix)
      rw [List.cons_append, occurrencesFrom, hn, hfurther]
      simp [Nesting.after]

/-- Nothing matches inside of quotes. -/
theorem occurrencesFrom_inside_quotes {quote : Char} {body : List Char} (hbody : quote ∉ body)
    (passed rest : List Char) :
    occurrencesFrom m ⟨0, some quote⟩ passed (body ++ quote :: rest) =
      occurrencesFrom m .top (quote :: (body.reverse ++ passed)) rest := by
  rw [occurrencesFrom_below (Nesting.not_isTop_of_quote hbody), Nesting.after_append,
    Nesting.after_quoted hbody]
  simp [Nesting.after, Nesting.step, Nesting.top]

/-- The search for keywords passes a text that has none of them. -/
theorem occurrencesFrom_free (hm : m.Finds words further) (hs : Free words signs s)
    {passed rest : List Char}
    (hfront : startsWord passed.head? = true ∨ endsWord (s ++ rest) = true)
    (hback : startsWord (s.reverse ++ passed).head? = true ∨ endsWord rest = true) :
    occurrencesFrom m .top passed (s ++ rest) = occurrencesFrom m .top
      (s.reverse ++ passed) rest := by
  induction hs generalizing passed with
  | nil => rfl
  | @sign c s hc _ _ ih =>
      have hword : isWordPart c = false := not_isWordPart_of_isPlainSign hc
      have hpassive : isPassive c = true := isPassive_of_isPlainSign hc
      have hmatch : m passed.head? (c :: (s ++ rest)) = none :=
        hm.sign _ _ _ hword (ne_of_isPassive hpassive).2.1
      rw [List.cons_append, occurrencesFrom_pass hpassive hmatch, ih (.inl (by simp [hword]))]
      · simp
      · simpa using hback
  | @word run s hne hrun hwords hends _ ih =>
      have hstarts : startsWord passed.head? = true := by
        refine hfront.resolve_right ?_
        obtain ⟨c, run, rfl⟩ := List.exists_cons_of_ne_nil hne
        simp [hrun c List.mem_cons_self]
      have hends' : endsWord (s ++ rest) = true := by
        cases s with
        | cons c s => simpa using hends
        | nil =>
            refine hback.resolve_left ?_
            obtain ⟨run, c, rfl⟩ := List.eq_nil_or_concat run |>.resolve_left hne
            simp [hrun c (by simp)]
      rw [List.append_assoc, occurrencesFrom_word hm hne hrun hstarts hends', hwords,
        ih (.inr hends')]
      · simp
      · simpa using hback
  | @quoted quote body s hquote hbody _ ih =>
      have hparen : quote ≠ ')' := by rintro rfl; revert hquote; decide
      have hmatch : m passed.head? (quote :: (body ++ quote :: (s ++ rest))) = none :=
        hm.sign _ _ _ (not_isWordPart_of_isQuote hquote) hparen
      have hih := @ih (quote :: (body.reverse ++ quote :: passed))
        (.inl (by simp [not_isWordPart_of_isQuote hquote])) (by simpa using hback)
      simp only [List.cons_append, List.append_assoc]
      rw [occurrencesFrom, hmatch, Nesting.step_top_quote hquote,
        occurrencesFrom_inside_quotes hbody, hih]
      simp

end Occurrences

section Splitting

variable {words : List String} {separator : Char} {s : List Char}

theorem foldr_consToFirst (s part : List Char) (parts : List (List Char)) :
    s.foldr consToFirst (part :: parts) = (s ++ part) :: parts := by
  induction s with
  | nil => rfl
  | cons c s ih => rw [List.foldr_cons, ih]; rfl

/-- Nothing is cut where no place is on the top level. -/
theorem splitTopFrom_below {n : Nesting} {body : List Char}
    (hbody : ∀ front, front <+: body → (n.after front).isTop = false) (c : Char)
    (rest : List Char) :
    splitTopFrom separator n (body ++ c :: rest) =
      (body ++ [c]).foldr consToFirst (splitTopFrom separator (n.after (body ++ [c])) rest) := by
  have hn : n.isTop = false := hbody [] List.nil_prefix
  induction body generalizing n with
  | nil => simp [splitTopFrom, hn, Nesting.after]
  | cons d body ih =>
      have hd : ∀ front, front <+: body → ((n.step d).after front).isTop = false :=
        fun front hfront => hbody (d :: front) (List.cons_prefix_cons.2 ⟨rfl, hfront⟩)
      rw [List.cons_append, splitTopFrom, hn, ih hd (hd [] List.nil_prefix)]
      simp [Nesting.after]

/-- Nothing is cut inside of quotes. -/
theorem splitTopFrom_inside_quotes {quote : Char} {body : List Char} (hbody : quote ∉ body)
    (rest : List Char) :
    splitTopFrom separator ⟨0, some quote⟩ (body ++ quote :: rest) =
      (body ++ [quote]).foldr consToFirst (splitTopFrom separator .top rest) := by
  rw [splitTopFrom_below (Nesting.not_isTop_of_quote hbody), Nesting.after_append,
    Nesting.after_quoted hbody]
  simp [Nesting.after, Nesting.step, Nesting.top]

/-- A word is not cut at a sign. -/
theorem splitTopFrom_word {run : List Char} (hrun : ∀ c ∈ run, isWordPart c = true)
    (hseparator : isWordPart separator = false) (rest : List Char) :
    splitTopFrom separator .top (run ++ rest) =
      run.foldr consToFirst (splitTopFrom separator .top rest) := by
  induction run with
  | nil => rfl
  | cons c run ih =>
      have hc : isWordPart c = true := hrun c List.mem_cons_self
      have hne : c ≠ separator := by rintro rfl; simp [hseparator] at hc
      rw [List.cons_append, splitTopFrom, Nesting.step_top (isPassive_of_word hc),
        ih fun d hd => hrun d (List.mem_cons_of_mem _ hd)]
      simp [hne]

/-- A text without the separator outside of quotes is not cut. -/
theorem splitTopFrom_free (hs : Free words [separator] s)
    (hseparator : isPlainSign separator = true) (rest : List Char) :
    splitTopFrom separator .top (s ++ rest) =
      s.foldr consToFirst (splitTopFrom separator .top rest) := by
  have hword : isWordPart separator = false := not_isWordPart_of_isPlainSign hseparator
  induction hs with
  | nil => rfl
  | @sign c s hc hsigns _ ih =>
      have hne : c ≠ separator := by simpa using hsigns
      rw [List.cons_append, splitTopFrom, Nesting.step_top (isPassive_of_isPlainSign hc), ih]
      simp [hne]
  | word _ hrun _ _ _ ih =>
      rw [List.append_assoc, splitTopFrom_word hrun hword, ih, List.foldr_append]
  | @quoted quote body s hquote hbody _ ih =>
      have hne : quote ≠ separator := by
        rintro rfl
        simp [not_quote_of_isPassive (isPassive_of_isPlainSign hseparator)] at hquote
      simp only [List.cons_append, List.append_assoc]
      rw [splitTopFrom, Nesting.step_top_quote hquote, splitTopFrom_inside_quotes hbody, ih]
      simp [hne]

/-- The text is one part if the separator stands in quotes only. -/
theorem splitTop_free (hs : Free words [separator] s) (hseparator : isPlainSign separator = true) :
    splitTop separator s = [s] := by
  have h := splitTopFrom_free hs hseparator []
  rw [List.append_nil, splitTopFrom, foldr_consToFirst, List.append_nil] at h
  exact h

/-- The first part ends at the first separator outside of quotes. -/
theorem splitTop_cons (hs : Free words [separator] s) (hseparator : isPlainSign separator = true)
    (rest : List Char) :
    splitTop separator (s ++ separator :: rest) = s :: splitTop separator rest := by
  rw [splitTop, splitTopFrom_free hs hseparator, splitTopFrom]
  have htop : (separator = separator && Nesting.top.isTop) = true := by
    simp [Nesting.isTop, Nesting.top]
  rw [if_pos htop, foldr_consToFirst, List.append_nil]
  rfl

end Splitting

section Comments

variable {words : List String} {signs s : List Char}

theorem withoutCommentsFrom_cons {c : Char} (hdash : c ≠ '-') (hslash : c ≠ '/')
    (rest : List Char) : withoutCommentsFrom none (c :: rest) =
      c :: withoutCommentsFrom (if isQuote c then some c else none) rest := by
  rw [withoutCommentsFrom] <;> simp [hdash, hslash]

theorem withoutCommentsFrom_passive {c : Char} (hc : isPassive c = true) (rest : List Char) :
    withoutCommentsFrom none (c :: rest) = c :: withoutCommentsFrom none rest := by
  obtain ⟨-, -, hdash, hslash⟩ := ne_of_isPassive hc
  simp [withoutCommentsFrom_cons hdash hslash, not_quote_of_isPassive hc]

theorem withoutCommentsFrom_word {run : List Char} (hrun : ∀ c ∈ run, isWordPart c = true)
    (rest : List Char) :
    withoutCommentsFrom none (run ++ rest) = run ++ withoutCommentsFrom none rest := by
  induction run with
  | nil => rfl
  | cons c run ih =>
      have hc : isPassive c = true := isPassive_of_word (hrun c List.mem_cons_self)
      rw [List.cons_append, withoutCommentsFrom_passive hc,
        ih fun d hd => hrun d (List.mem_cons_of_mem _ hd), List.cons_append]

/-- No comment starts inside of quotes. -/
theorem withoutCommentsFrom_inside_quotes {quote : Char} {body : List Char} (hbody : quote ∉ body)
    (rest : List Char) :
    withoutCommentsFrom (some quote) (body ++ quote :: rest) =
      body ++ quote :: withoutCommentsFrom none rest := by
  induction body with
  | nil => simp [withoutCommentsFrom]
  | cons c body ih =>
      have hc : quote ≠ c := fun h => hbody (h ▸ List.mem_cons_self)
      have hbody : quote ∉ body := fun h => hbody (List.mem_cons_of_mem _ h)
      simp [withoutCommentsFrom, Ne.symm hc, ih hbody]

/-- No comment starts in a text whose hyphens and slashes stand in quotes. -/
theorem withoutCommentsFrom_free (hs : Free words signs s) (rest : List Char) :
    withoutCommentsFrom none (s ++ rest) = s ++ withoutCommentsFrom none rest := by
  induction hs with
  | nil => rfl
  | sign hc _ _ ih =>
      rw [List.cons_append, withoutCommentsFrom_passive (isPassive_of_isPlainSign hc), ih,
        List.cons_append]
  | word _ hrun _ _ _ ih =>
      rw [List.append_assoc, withoutCommentsFrom_word hrun, ih, List.append_assoc]
  | @quoted quote body s hquote hbody _ ih =>
      have hdash : quote ≠ '-' := by rintro rfl; revert hquote; decide
      have hslash : quote ≠ '/' := by rintro rfl; revert hquote; decide
      simp only [List.cons_append, List.append_assoc]
      rw [withoutCommentsFrom_cons hdash hslash, if_pos hquote,
        withoutCommentsFrom_inside_quotes hbody, ih]

/-- A text whose hyphens and slashes stand in quotes has no comment. -/
theorem withoutComments_free (hs : Free words signs s) : withoutComments s = s := by
  simpa [withoutComments, withoutCommentsFrom] using withoutCommentsFrom_free hs []

end Comments

end JoinGraph.Pattern
