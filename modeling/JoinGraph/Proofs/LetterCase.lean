import JoinGraph.Proofs.WordMatch
import JoinGraph.Proofs.CommentScan

/-!
# The case of letters

Keywords count in any case of their ASCII letters, and everything else that a scan looks at is no
letter: blanks, quotes, parentheses, separators and delimiters.  So each scan runs on a text in
lower case as it runs on the text itself, and what it cuts out is in lower case.  The scans are
taken one by one, each with an equation that moves the lower case from its text to what it finds.

Letter case is that of ASCII alone.  The long s and the Kelvin sign stand for letters of keywords
too, but they have no lower case here and stay what they are.

## Main results

* `asciiLower_eq_iff` — a character that is no letter is met in the same places.
* `Matcher.FoldsCase` — a matcher to which the case of letters makes no difference; those for
  words are such.
* `occurrences_map`, `splitTop_map`, `withoutComments_map` — the scans on a text in lower case.
-/

namespace JoinGraph.Text

/-! ## Characters -/

/-- What holds of every character and itself, and of the ASCII characters and their lower case. -/
theorem forall_asciiLower {p : Char → Char → Prop} (hself : ∀ c, p c c)
    (hascii : ∀ n < 128, p (asciiLower (Char.ofNat n)) (Char.ofNat n)) (c : Char) :
    p (asciiLower c) c := by
  by_cases hc : c.toNat < 128
  · exact ascii_forall (p := fun c => p (asciiLower c) c) hascii hc
  · have hupper : ¬(65 ≤ c.toNat ∧ c.toNat ≤ 90) := by omega
    have hlower : asciiLower c = c := by simp [asciiLower, hupper]
    rw [hlower]
    exact hself c

@[simp] theorem isBlank_asciiLower (c : Char) : isBlank (asciiLower c) = isBlank c :=
  forall_asciiLower (p := fun d c => isBlank d = isBlank c) (fun _ => rfl) (by decide +kernel) c

@[simp] theorem isWordPart_asciiLower (c : Char) : isWordPart (asciiLower c) = isWordPart c :=
  forall_asciiLower (p := fun d c => isWordPart d = isWordPart c) (fun _ => rfl)
    (by decide +kernel) c

@[simp] theorem isAlphanumeric_asciiLower (c : Char) :
    isAlphanumeric (asciiLower c) = isAlphanumeric c :=
  forall_asciiLower (p := fun d c => isAlphanumeric d = isAlphanumeric c) (fun _ => rfl)
    (by decide +kernel) c

@[simp] theorem isAsciiDigit_asciiLower (c : Char) : isAsciiDigit (asciiLower c) = isAsciiDigit c :=
  forall_asciiLower (p := fun d c => isAsciiDigit d = isAsciiDigit c) (fun _ => rfl)
    (by decide +kernel) c

@[simp] theorem foldLower_asciiLower (c : Char) : foldLower (asciiLower c) = foldLower c :=
  forall_asciiLower (p := fun d c => foldLower d = foldLower c) (fun _ => rfl) (by decide +kernel) c

@[simp] theorem asciiLower_asciiLower (c : Char) : asciiLower (asciiLower c) = asciiLower c :=
  forall_asciiLower (p := fun d c => asciiLower d = asciiLower c) (fun _ => rfl)
    (by decide +kernel) c

/-- A character that is no letter is met in the same places. -/
theorem asciiLower_eq_iff {d : Char} (hd : isAsciiLetter d = false) (c : Char) :
    asciiLower c = d ↔ c = d := by
  have hletter : isAsciiLetter (asciiLower c) = isAsciiLetter c :=
    forall_asciiLower (p := fun d c => isAsciiLetter d = isAsciiLetter c) (fun _ => rfl)
      (by decide +kernel) c
  have hother : isAsciiLetter c = false → asciiLower c = c :=
    forall_asciiLower (p := fun d c => isAsciiLetter c = false → d = c) (fun _ _ => rfl)
      (by decide +kernel) c
  cases hc : isAsciiLetter c with
  | false => rw [hother hc]
  | true =>
      constructor
      · intro h
        rw [h, hd, hc] at hletter
        cases hletter
      · intro h
        rw [h, hd] at hc
        cases hc

theorem asciiLower_beq {d : Char} (hd : isAsciiLetter d = false) (c : Char) :
    (asciiLower c == d) = (c == d) := by
  rw [Bool.eq_iff_iff, beq_iff_eq, beq_iff_eq, asciiLower_eq_iff hd]

/-- Neither is it the lower case of another character at the front of a text, or at its end. -/
theorem map_eq_some_iff {d : Char} (hd : isAsciiLetter d = false) (found : Option Char) :
    found.map asciiLower = some d ↔ found = some d := by
  cases found with
  | none => simp
  | some c => simp [asciiLower_eq_iff hd]

theorem map_beq_some {d : Char} (hd : isAsciiLetter d = false) (found : Option Char) :
    (found.map asciiLower == some d) = (found == some d) := by
  rw [Bool.eq_iff_iff, beq_iff_eq, beq_iff_eq, map_eq_some_iff hd]

/-- A text of one character that is no letter is equal to no other text in lower case. -/
theorem map_eq_singleton_iff {d : Char} (hd : isAsciiLetter d = false) (s : List Char) :
    s.map asciiLower = [d] ↔ s = [d] := by
  cases s with
  | nil => simp
  | cons c s => simp [asciiLower_eq_iff hd]

/-- A sign that is no letter is one in no other case. -/
theorem equalFold_sign_iff {d : Char} (hd : isAsciiLetter d = false) (s : String) :
    equalFold (String.singleton d) s = true ↔ s = String.singleton d := by
  have hlower : asciiLower d = d := (asciiLower_eq_iff hd d).2 rfl
  rw [equalFold, beq_iff_eq, eq_comm, ← String.toList_inj, String.toList_singleton,
    List.map_singleton, hlower, map_eq_singleton_iff hd]

/-! ## Trimming, splitting and comparing -/

@[simp] theorem trimFront_map (s : List Char) :
    trimFront (s.map asciiLower) = (trimFront s).map asciiLower := by
  simp [trimFront, List.dropWhile_map, Function.comp_def]

@[simp] theorem trimBack_map (s : List Char) :
    trimBack (s.map asciiLower) = (trimBack s).map asciiLower := by
  simp [trimBack, ← List.map_reverse, List.dropWhile_map, Function.comp_def]

@[simp] theorem trimChars_map (s : List Char) :
    trimChars (s.map asciiLower) = (trimChars s).map asciiLower := by
  simp [trimChars]

theorem wordsFrom_map (word s : List Char) :
    wordsFrom (word.map asciiLower) (s.map asciiLower) =
      (wordsFrom word s).map (List.map asciiLower) := by
  induction s generalizing word with
  | nil => cases word <;> simp [wordsFrom]
  | cons c s ih =>
      have hkeep := ih (c :: word)
      have hcut := ih []
      simp only [List.map_cons, List.map_nil] at hkeep hcut
      simp only [List.map_cons, wordsFrom, isBlank_asciiLower, List.isEmpty_map]
      split
      · split
        · exact hcut
        · simp [hcut]
      · exact hkeep

theorem words_map (s : List Char) :
    words (s.map asciiLower) = (words s).map (List.map asciiLower) :=
  wordsFrom_map [] s

theorem splitChars_map {separator : Char} (hseparator : isAsciiLetter separator = false)
    (s : List Char) :
    splitChars separator (s.map asciiLower) = (splitChars separator s).map
      (List.map asciiLower) := by
  induction s with
  | nil => rfl
  | cons c s ih =>
      simp only [List.map_cons, splitChars, asciiLower_eq_iff hseparator, ih]
      split
      · rfl
      · cases splitChars separator s <;> rfl

theorem splitOnce?_map {separator : Char} (hseparator : isAsciiLetter separator = false)
    (s : List Char) :
    splitOnce? separator (s.map asciiLower) =
      (splitOnce? separator s).map (Prod.map (List.map asciiLower) (List.map asciiLower)) := by
  have hpasses : (fun c => decide (c ≠ separator)) ∘ asciiLower = fun c =>
      decide (c ≠ separator) := by
    funext c
    simp [asciiLower_eq_iff hseparator]
  simp only [splitOnce?, List.dropWhile_map, List.takeWhile_map, hpasses]
  cases s.dropWhile (fun c => decide (c ≠ separator)) <;> rfl

theorem equalFold_map (s : List Char) (name : String) :
    equalFold name (String.ofList (s.map asciiLower)) = equalFold name (String.ofList s) := by
  simp [equalFold, Function.comp_def]

theorem ofList_map (s : List Char) :
    String.ofList (s.map asciiLower) = lowerAscii (String.ofList s) := by
  simp [lowerAscii]

end JoinGraph.Text

namespace JoinGraph.Name

open Text (asciiLower asciiLower_beq asciiLower_eq_iff)

@[simp] theorem isDelimiter_asciiLower (c : Char) : isDelimiter (asciiLower c) = isDelimiter c := by
  simp only [isDelimiter, asciiLower_beq (by decide : Text.isAsciiLetter '[' = false),
    asciiLower_beq (by decide : Text.isAsciiLetter ']' = false),
    asciiLower_beq (by decide : Text.isAsciiLetter '"' = false),
    asciiLower_beq (by decide : Text.isAsciiLetter '\x60' = false)]

@[simp] theorem bareChars_map (name : List Char) :
    bareChars (name.map asciiLower) = (bareChars name).map asciiLower := by
  simp [bareChars, List.filter_map, Function.comp_def]

@[simp] theorem isClauseKeyword_map (word : List Char) :
    isClauseKeyword (String.ofList (word.map asciiLower)) =
      isClauseKeyword (String.ofList word) := by
  simp only [isClauseKeyword, Text.equalFold_map]

theorem unwrapQuote?_map {quote : Char} (hquote : Text.isAsciiLetter quote = false)
    (text : List Char) :
    unwrapQuote? quote (text.map asciiLower) = (unwrapQuote? quote text).map
      (List.map asciiLower) := by
  cases text with
  | nil => rfl
  | cons first rest =>
      simp only [List.map_cons, unwrapQuote?, List.getLast?_map, Text.map_eq_some_iff hquote,
        asciiLower_eq_iff hquote, ← List.map_dropLast]
      split <;> rfl

theorem unquoteChars_map (literal : List Char) :
    unquoteChars (literal.map asciiLower) = (unquoteChars literal).map asciiLower := by
  simp only [unquoteChars, Text.trimChars_map,
    unwrapQuote?_map (by decide : Text.isAsciiLetter '\'' = false),
    unwrapQuote?_map (by decide : Text.isAsciiLetter '"' = false)]
  cases unwrapQuote? '\'' (Text.trimChars literal) with
  | some text => rfl
  | none => cases unwrapQuote? '"' (Text.trimChars literal) <;> rfl

end JoinGraph.Name

namespace JoinGraph.Pattern

open Text (asciiLower asciiLower_beq asciiLower_eq_iff isAsciiLetter)

/-! ## Quotes and nesting -/

@[simp] theorem isQuote_asciiLower (c : Char) : isQuote (asciiLower c) = isQuote c := by
  simp only [isQuote, asciiLower_beq (by decide : isAsciiLetter '\'' = false),
    asciiLower_beq (by decide : isAsciiLetter '"' = false),
    asciiLower_beq (by decide : isAsciiLetter '\x60' = false)]

theorem isAsciiLetter_of_isQuote {c : Char} (h : isQuote c = true) : isAsciiLetter c = false := by
  simp only [isQuote, Bool.or_eq_true, beq_iff_eq] at h
  rcases h with (rfl | rfl) | rfl <;> decide

/-- What a scan takes for an open quote is a quote. -/
def OpensQuote (quote : Option Char) : Prop := ∀ q ∈ quote, isQuote q = true

theorem opensQuote_none : OpensQuote none := by
  intro q hq
  cases hq

theorem opensQuote_of_isQuote (c : Char) : OpensQuote (if isQuote c then some c else none) := by
  intro q hq
  by_cases hc : isQuote c = true
  · simp only [hc, if_true, Option.mem_some_iff] at hq
    exact hq ▸ hc
  · simp [hc] at hq

/-- A quote is closed by itself. -/
theorem opensQuote_of_closing {opening : Char} (h : OpensQuote (some opening)) (c : Char) :
    OpensQuote (if c = opening then none else some opening) := by
  split
  · exact opensQuote_none
  · exact h

namespace Nesting

variable {n : Nesting}

theorem step_asciiLower (hn : OpensQuote n.quote) (c : Char) :
    n.step (asciiLower c) = n.step c := by
  obtain ⟨depth, quote⟩ := n
  cases quote with
  | some opening =>
      have hletter := isAsciiLetter_of_isQuote (hn opening rfl)
      simp only [step, asciiLower_eq_iff hletter]
  | none =>
      by_cases hc : isQuote c = true
      · -- A quote is no letter, so it is its own lower case.
        have hself : asciiLower c = c := (asciiLower_eq_iff (isAsciiLetter_of_isQuote hc) c).2 rfl
        rw [hself]
      · simp only [step, isQuote_asciiLower, hc,
          asciiLower_eq_iff (by decide : isAsciiLetter '(' = false),
          asciiLower_eq_iff (by decide : isAsciiLetter ')' = false), Bool.false_eq_true, if_false]

theorem opensQuote_step (hn : OpensQuote n.quote) (c : Char) : OpensQuote (n.step c).quote := by
  obtain ⟨depth, quote⟩ := n
  cases quote with
  | some opening =>
      have hclosing := opensQuote_of_closing hn c
      by_cases hc : c = opening <;> simpa [step, hc] using hclosing
  | none =>
      have hopening := opensQuote_of_isQuote c
      by_cases hc : isQuote c = true
      · simpa [step, hc] using hopening
      · simp only [step, hc, Bool.false_eq_true, if_false]
        split
        · exact hn
        · split <;> exact hn

end Nesting

theorem consToFirst_map (c : Char) (parts : List (List Char)) :
    consToFirst (asciiLower c) (parts.map (List.map asciiLower)) =
      (consToFirst c parts).map (List.map asciiLower) := by
  cases parts <;> rfl

theorem splitTopFrom_map {separator : Char} (hseparator : isAsciiLetter separator = false)
    {n : Nesting} (hn : OpensQuote n.quote) (s : List Char) :
    splitTopFrom separator n (s.map asciiLower) =
      (splitTopFrom separator n s).map (List.map asciiLower) := by
  induction s generalizing n with
  | nil => rfl
  | cons c s ih =>
      simp only [List.map_cons, splitTopFrom, asciiLower_eq_iff hseparator,
        Nesting.step_asciiLower hn]
      split
      · rw [ih hn, List.map_cons, List.map_nil]
      · rw [ih (Nesting.opensQuote_step hn c), consToFirst_map]

theorem splitTop_map {separator : Char} (hseparator : isAsciiLetter separator = false)
    (s : List Char) :
    splitTop separator (s.map asciiLower) = (splitTop separator s).map (List.map asciiLower) :=
  splitTopFrom_map hseparator opensQuote_none s

/-! ## Comments -/

theorem afterLine_map (s : List Char) :
    afterLine (s.map asciiLower) = (afterLine s).map asciiLower := by
  have hbreak : (fun c => decide (c ≠ '\n')) ∘ asciiLower = fun c => decide (c ≠ '\n') := by
    funext c
    simp [asciiLower_eq_iff (by decide : isAsciiLetter '\n' = false)]
  rw [afterLine, List.dropWhile_map, hbreak, afterLine]

theorem afterBlock_map (s : List Char) :
    afterBlock (s.map asciiLower) = (afterBlock s).map asciiLower := by
  fun_induction afterBlock s with
  | case1 rest => rfl
  | case2 c rest hopen ih =>
      rw [List.map_cons, afterBlock, ih]
      intro tail hstar hslash
      rw [asciiLower_eq_iff (by decide)] at hstar
      obtain ⟨d, more, rfl, hd, -⟩ := List.map_eq_cons_iff.1 hslash
      rw [asciiLower_eq_iff (by decide)] at hd
      exact hopen more hstar (hd ▸ rfl)
  | case3 => rfl

theorem withoutCommentsFrom_map {quote : Option Char} (hquote : OpensQuote quote) (s : List Char) :
    withoutCommentsFrom quote (s.map asciiLower) =
      (withoutCommentsFrom quote s).map asciiLower := by
  fun_induction withoutCommentsFrom quote s with
  | case1 quote => rw [List.map_nil, withoutCommentsFrom]
  | case2 opening c rest ih =>
      have hletter := isAsciiLetter_of_isQuote (hquote opening rfl)
      have hnext := ih (opensQuote_of_closing hquote c)
      simp only [dite_eq_ite] at hnext
      simp only [List.map_cons, withoutCommentsFrom, asciiLower_eq_iff hletter, hnext]
  | case3 rest ih =>
      have hmap : ('-' :: '-' :: rest).map asciiLower = '-' :: '-' :: rest.map asciiLower := rfl
      rw [hmap, withoutCommentsFrom, afterLine_map, ih hquote]
      rfl
  | case4 rest ih =>
      have hmap : ('/' :: '*' :: rest).map asciiLower = '/' :: '*' :: rest.map asciiLower := rfl
      rw [hmap, withoutCommentsFrom, afterBlock_map, ih hquote]
      rfl
  | case5 c rest hnotLine hnotBlock ih =>
      have hline : c = '-' → rest.head? ≠ some '-' := fun hc =>
        head?_ne_of_not_cons fun tail => hnotLine tail hc
      have hblock : c = '/' → rest.head? ≠ some '*' := fun hc =>
        head?_ne_of_not_cons fun tail => hnotBlock tail hc
      have hnext := ih (opensQuote_of_isQuote c)
      have hself : isQuote c = true → asciiLower c = c := fun hc =>
        (asciiLower_eq_iff (isAsciiLetter_of_isQuote hc) c).2 rfl
      have hopen : (if isQuote (asciiLower c) then some (asciiLower c) else none) =
          if isQuote c then some c else none := by
        rw [isQuote_asciiLower]
        split
        · next hc => rw [hself hc]
        · rfl
      simp only [dite_eq_ite] at hnext
      rw [List.map_cons, withoutCommentsFrom_keep, hopen, hnext, List.map_cons]
      · intro hc
        rw [List.head?_map, ne_eq, Text.map_eq_some_iff (by decide)]
        exact hline ((asciiLower_eq_iff (by decide) c).1 hc)
      · intro hc
        rw [List.head?_map, ne_eq, Text.map_eq_some_iff (by decide)]
        exact hblock ((asciiLower_eq_iff (by decide) c).1 hc)

theorem withoutComments_map (s : List Char) :
    withoutComments (s.map asciiLower) = (withoutComments s).map asciiLower :=
  withoutCommentsFrom_map opensQuote_none s

/-! ## Keywords -/

theorem afterWord?_map (word s : List Char) :
    afterWord? word (s.map asciiLower) = (afterWord? word s).map (List.map asciiLower) := by
  induction word generalizing s with
  | nil => rfl
  | cons w word ih =>
      cases s with
      | nil => rfl
      | cons c s =>
          simp only [List.map_cons, afterWord?, Text.foldLower_asciiLower, ih]
          split <;> rfl

theorem afterBlanks?_map (s : List Char) :
    afterBlanks? (s.map asciiLower) = (afterBlanks? s).map (List.map asciiLower) := by
  cases s with
  | nil => rfl
  | cons c s =>
      simp only [List.map_cons, afterBlanks?, Text.isBlank_asciiLower, Text.trimFront_map]
      split <;> rfl

@[simp] theorem startsWord_map (before : Option Char) :
    startsWord (before.map asciiLower) = startsWord before := by
  cases before <;> simp [startsWord]

@[simp] theorem endsWord_map (rest : List Char) :
    endsWord (rest.map asciiLower) = endsWord rest := by
  cases rest <;> simp [endsWord]

theorem filter_endsWord_map (found : Option (List Char)) :
    (found.map (List.map asciiLower)).filter endsWord = (found.filter endsWord).map
      (List.map asciiLower) := by
  cases found with
  | none => rfl
  | some rest => by_cases h : endsWord rest = true <;> simp [Option.filter, h]

theorem bind_afterBlanks?_map (found : Option (List Char)) :
    (found.map (List.map asciiLower)).bind afterBlanks? =
      (found.bind afterBlanks?).map (List.map asciiLower) := by
  cases found with
  | none => rfl
  | some rest => exact afterBlanks?_map rest

/-- The case of letters makes no difference to a matcher. -/
def Matcher.FoldsCase (m : Matcher) : Prop := ∀ before s,
  m (before.map asciiLower) (s.map asciiLower) = (m before s).map (List.map asciiLower)

theorem foldsCase_wholeWord (word : String) : (wholeWord word).FoldsCase := by
  intro before s
  simp only [wholeWord, startsWord_map, afterWord?_map, filter_endsWord_map]
  split <;> rfl

theorem foldsCase_wordAndBlanks (word : String) : (wordAndBlanks word).FoldsCase := by
  intro before s
  simp only [wordAndBlanks, startsWord_map, afterWord?_map, bind_afterBlanks?_map]
  split <;> rfl

theorem foldsCase_anyWord (words : List String) : (anyWord words).FoldsCase := by
  intro before s
  induction words with
  | nil => rfl
  | cons word words ih =>
      simp only [anyWord] at ih
      simp only [anyWord, List.findSome?_cons, foldsCase_wholeWord word before s, ih]
      cases wholeWord word before s <;> rfl

theorem foldsCase_character {wanted : Char} (hwanted : isAsciiLetter wanted = false) :
    (character wanted).FoldsCase := by
  intro before s
  cases s with
  | nil => rfl
  | cons c s =>
      simp only [List.map_cons, character, asciiLower_eq_iff hwanted]
      split <;> rfl

theorem Matcher.FoldsCase.either {first second : Matcher} (hfirst : first.FoldsCase)
    (hsecond : second.FoldsCase) : (either first second).FoldsCase := by
  intro before s
  simp only [Pattern.either, hfirst before s, hsecond before s]
  cases first before s <;> rfl

/-- A match in a text in lower case. -/
def Occurrence.lowered (found : Occurrence) : Occurrence :=
  ⟨found.before.map asciiLower, found.after.map asciiLower⟩

section Scans

variable {m : Matcher}

theorem occurrencesFrom_map (hm : m.FoldsCase) {n : Nesting} (hn : OpensQuote n.quote)
    (passed s : List Char) :
    occurrencesFrom m n (passed.map asciiLower) (s.map asciiLower) =
      (occurrencesFrom m n passed s).map Occurrence.lowered := by
  induction s generalizing n passed with
  | nil => rfl
  | cons c s ih =>
      have hnext := ih (Nesting.opensQuote_step hn c) (c :: passed)
      have hmatch := hm passed.head? (c :: s)
      rw [List.map_cons] at hnext hmatch
      simp only [List.map_cons, occurrencesFrom, Nesting.step_asciiLower hn, hnext,
        List.head?_map, hmatch]
      split
      · cases m passed.head? (c :: s) with
        | none => rfl
        | some after => simp [Occurrence.lowered]
      · rfl

/-- The same matches are found. -/
theorem occurrences_map (hm : m.FoldsCase) (s : List Char) :
    occurrences m (s.map asciiLower) = (occurrences m s).map Occurrence.lowered :=
  occurrencesFrom_map hm opensQuote_none [] s

theorem first?_map (hm : m.FoldsCase) (s : List Char) :
    first? m (s.map asciiLower) = (first? m s).map Occurrence.lowered := by
  rw [first?_eq_head?, first?_eq_head?, occurrences_map hm, List.head?_map]

theorem textBefore_map (hm : m.FoldsCase) (s : List Char) :
    textBefore m (s.map asciiLower) = (textBefore m s).map asciiLower := by
  rw [textBefore, textBefore, first?_map hm]
  cases first? m s <;> rfl

end Scans

theorem startsConjunction_map (s : List Char) :
    startsConjunction (s.map asciiLower) = startsConjunction s := by
  rw [startsConjunction, startsConjunction, afterBlanks?_map]
  cases afterBlanks? s with
  | none => rfl
  | some rest =>
      simp only [Option.map_some, afterWord?_map, bind_afterBlanks?_map, Option.isSome_map]

theorem beforeConjunction_map (s : List Char) :
    beforeConjunction (s.map asciiLower) = (beforeConjunction s).map asciiLower := by
  induction s with
  | nil => rfl
  | cons c s ih =>
      have hstarts := startsConjunction_map (c :: s)
      rw [List.map_cons] at hstarts ⊢
      rw [beforeConjunction, beforeConjunction, hstarts, ih]
      split <;> rfl

end JoinGraph.Pattern
