import JoinGraph.Pattern

/-!
# Matching words

A matcher for keywords looks at whole words only: at the front of a word it compares the word with
its keywords in any case, and nowhere else it matches.  `Matcher.Finds` says this of a matcher,
once for all the ways in which words are looked for.

## Main results

* `Text.isWordPart_of_isBlank`, `Text.isWordPart_of_foldLower` — which characters belong to words.
* `finds_wholeWord`, `finds_wordAndBlanks`, `finds_anyWord`, `Matcher.Finds.either_paren` — the
  matchers that look for words.
-/

namespace JoinGraph.Text

/-- A property of all ASCII characters holds of an ASCII character. -/
theorem ascii_forall {p : Char → Prop} (h : ∀ n < 128, p (Char.ofNat n)) {c : Char}
    (hc : c.toNat < 128) : p c :=
  Char.ofNat_toNat c ▸ h c.toNat hc

theorem inTable_eq_any (table : Array (Nat × Nat)) (code : Nat) :
    inTable table code = table.toList.any fun range => range.1 ≤ code && code ≤ range.2 :=
  Array.any_toList.symm

/-- The blanks beyond ASCII. -/
private def blankCodes : List Nat :=
  [0x85, 0xA0, 0x1680, 0x2000, 0x2001, 0x2002, 0x2003, 0x2004, 0x2005, 0x2006, 0x2007,
    0x2008, 0x2009, 0x200A, 0x2028, 0x2029, 0x202F, 0x205F, 0x3000]

private theorem mem_blankCodes {c : Char} (h : isBlank c = true) (hc : ¬c.toNat < 128) :
    c.toNat ∈ blankCodes := by
  simp only [isBlank, Bool.or_eq_true, Bool.and_eq_true, decide_eq_true_eq, beq_iff_eq] at h
  simp only [blankCodes, List.mem_cons, List.not_mem_nil, or_false]
  omega

/-- No blank belongs to a word. -/
theorem isWordPart_of_isBlank {c : Char} (h : isBlank c = true) : isWordPart c = false := by
  by_cases hc : c.toNat < 128
  · revert h
    exact ascii_forall (p := fun c => isBlank c = true → isWordPart c = false)
      (by decide +kernel) hc
  · have hall : ∀ n ∈ blankCodes, (inTable Tables.alphabetic n || inTable Tables.decimalDigit n
        || inTable Tables.wordMark n) = false := by
      -- The tables are searched to their end, which takes long through their arrays.
      simp only [inTable_eq_any]
      decide +kernel
    rw [isWordPart, if_neg hc]
    exact hall _ (mem_blankCodes h hc)

/-- No blank is a letter or a numeral. -/
theorem isAlphanumeric_of_isBlank {c : Char} (h : isBlank c = true) : isAlphanumeric c = false := by
  by_cases hc : c.toNat < 128
  · revert h
    exact ascii_forall (p := fun c => isBlank c = true → isAlphanumeric c = false)
      (by decide +kernel) hc
  · have hall : ∀ n ∈ blankCodes, (inTable Tables.alphabetic n || (inTable Tables.decimalDigit n
        || inTable Tables.otherNumeral n)) = false := by
      simp only [inTable_eq_any]
      decide +kernel
    rw [isAlphanumeric, isAlphabetic, isNumeric, if_neg hc, if_neg hc]
    exact hall _ (mem_blankCodes h hc)

/-- `a` to `z`. -/
def isLowerLetter (c : Char) : Bool := 97 ≤ c.toNat && c.toNat ≤ 122

/-- What stands for a lower-case ASCII letter belongs to a word. -/
theorem isWordPart_of_foldLower {c : Char} (h : isLowerLetter (foldLower c) = true) :
    isWordPart c = true := by
  by_cases hs : c.toNat = 0x17F
  · rw [isWordPart, hs, if_neg (by decide), inTable_eq_any]
    decide +kernel
  by_cases hk : c.toNat = 0x212A
  · rw [isWordPart, hk, if_neg (by decide), inTable_eq_any]
    decide +kernel
  by_cases hascii : c.toNat < 128
  · revert h
    exact ascii_forall (p := fun c => isLowerLetter (foldLower c) = true → isWordPart c = true)
      (by decide +kernel) hascii
  · -- Beyond ASCII only those two characters stand for another one.
    have hself : foldLower c = c := by
      have hupper : ¬(65 ≤ c.toNat ∧ c.toNat ≤ 90) := by omega
      simp [foldLower, asciiLower, hs, hk, hupper]
    rw [hself] at h
    simp only [isLowerLetter, Bool.and_eq_true, decide_eq_true_eq] at h
    omega

end JoinGraph.Text

namespace JoinGraph.Pattern

open Text (isWordPart isBlank isLowerLetter foldLower)

/-! ## Borders of words -/

@[simp] theorem startsWord_some (c : Char) : startsWord (some c) = !isWordPart c := rfl

@[simp] theorem endsWord_cons (c : Char) (rest : List Char) :
    endsWord (c :: rest) = !isWordPart c := rfl

/-- What ends a text is what ends its last part. -/
theorem startsWord_append (s : List Char) {t : List Char} (ht : t ≠ []) :
    startsWord (s ++ t).getLast? = startsWord t.getLast? := by
  rw [List.getLast?_append, List.getLast?_eq_some_getLast ht]
  rfl

theorem startsWord_of_append {s t : List Char} (h : startsWord (s ++ t).getLast? = true) :
    startsWord t.getLast? = true := by
  cases t with
  | nil => rfl
  | cons c t => rwa [startsWord_append s (List.cons_ne_nil c t)] at h

theorem endsWord_append {s : List Char} (hs : s ≠ []) (t : List Char) :
    endsWord (s ++ t) = endsWord s := by
  cases s with
  | nil => exact absurd rfl hs
  | cons c s => rfl

/-! ## Matching words -/

/-- A keyword as the matchers take it: lower-case ASCII letters. -/
def IsKeyword (word : String) : Prop :=
  word.toList ≠ [] ∧ word.toList.all isLowerLetter = true

instance (word : String) : Decidable (IsKeyword word) :=
  inferInstanceAs (Decidable (_ ∧ _))

theorem IsKeyword.letters {word : String} (h : IsKeyword word) :
    ∀ c ∈ word.toList, isLowerLetter c = true :=
  List.all_eq_true.1 h.2

/-- Whether a run of characters is one of the words. -/
def isOneOf (words : List String) (run : List Char) : Bool :=
  words.any fun word => run.map foldLower == word.toList

/-- At the front of a whole word exactly this word matches. -/
theorem afterWord?_run {word run rest : List Char} (hword : ∀ c ∈ word, isLowerLetter c = true)
    (hrun : ∀ c ∈ run, isWordPart c = true) (hrest : endsWord rest = true) :
    (afterWord? word (run ++ rest)).filter endsWord =
      if run.map foldLower = word then some rest else none := by
  induction word generalizing run with
  | nil =>
      cases run with
      | nil => simp [afterWord?, hrest]
      | cons c run =>
          have hc : isWordPart c = true := hrun c List.mem_cons_self
          simp [afterWord?, hc]
  | cons w word ih =>
      have hw : isLowerLetter w = true := hword w List.mem_cons_self
      cases run with
      | nil =>
          cases rest with
          | nil => simp [afterWord?]
          | cons c rest =>
              -- The text goes on with no word, so with none that stands for a letter.
              have hne : foldLower c ≠ w := by
                rintro rfl
                have hc := Text.isWordPart_of_foldLower hw
                simp [hc] at hrest
              simp [afterWord?, hne]
      | cons c run =>
          have ih := @ih run (fun x hx => hword x (List.mem_cons_of_mem _ hx))
            (fun x hx => hrun x (List.mem_cons_of_mem _ hx))
          by_cases hc : foldLower c = w
          · simpa [afterWord?, hc] using ih
          · simp [afterWord?, hc]

theorem afterWord?_sign {word : String} (hword : IsKeyword word) {c : Char}
    (hc : isWordPart c = false) (rest : List Char) : afterWord? word.toList (c :: rest) = none := by
  have hletters := hword.letters
  cases hw : word.toList with
  | nil => exact absurd hw hword.1
  | cons w letters =>
      have hfold : foldLower c ≠ w := by
        rintro rfl
        have := Text.isWordPart_of_foldLower (hletters _ (hw ▸ List.mem_cons_self))
        simp [hc] at this
      simp [afterWord?, hfold]

/-- Blanks end a word. -/
theorem endsWord_of_afterBlanks? {s rest : List Char} (h : afterBlanks? s = some rest) :
    endsWord s = true := by
  cases s with
  | nil => rfl
  | cons c s =>
      cases hc : isBlank c with
      | false => simp [afterBlanks?, hc] at h
      | true => simp [Text.isWordPart_of_isBlank hc]

/-- Looking for the blanks behind a word is looking for them behind a whole word. -/
theorem bind_afterBlanks? (found : Option (List Char)) :
    found.bind afterBlanks? = (found.filter endsWord).bind afterBlanks? := by
  cases found with
  | none => rfl
  | some s =>
      cases hs : afterBlanks? s with
      | none => by_cases h : endsWord s = true <;> simp [Option.filter, h, hs]
      | some rest => simp [Option.filter, endsWord_of_afterBlanks? hs, hs]

theorem wordAndBlanks_eq (word : String) (before : Option Char) (s : List Char) :
    wordAndBlanks word before s = (wholeWord word before s).bind afterBlanks? := by
  simp only [wordAndBlanks, wholeWord]
  split
  · exact bind_afterBlanks? _
  · rfl

/-- A matcher that looks for words; `further` takes off what has to follow the word. -/
structure Matcher.Finds (m : Matcher) (words : List String)
    (further : List Char → Option (List Char)) : Prop where
  sign : ∀ (before : Option Char) (c : Char) (rest : List Char), isWordPart c = false → c ≠ ')' →
    m before (c :: rest) = none
  inside : ∀ (b c : Char) (rest : List Char), isWordPart b = true → isWordPart c = true →
    m (some b) (c :: rest) = none
  word : ∀ (before : Option Char) (run rest : List Char), (∀ c ∈ run, isWordPart c = true) →
    run ≠ [] → startsWord before = true → endsWord rest = true →
    m before (run ++ rest) = if isOneOf words run then further rest else none

theorem finds_wholeWord {word : String} (hword : IsKeyword word) :
    (wholeWord word).Finds [word] some where
  sign before c rest hc _ := by
    simp [wholeWord, afterWord?_sign hword hc]
  inside b c rest hb _ := by
    simp [wholeWord, hb]
  word before run rest hrun _ hbefore hrest := by
    rw [wholeWord, if_pos hbefore, afterWord?_run hword.letters hrun hrest]
    simp [isOneOf]

theorem finds_wordAndBlanks {word : String} (hword : IsKeyword word) :
    (wordAndBlanks word).Finds [word] afterBlanks? where
  sign before c rest hc hparen := by
    rw [wordAndBlanks_eq, (finds_wholeWord hword).sign before c rest hc hparen]; rfl
  inside b c rest hb hc := by
    rw [wordAndBlanks_eq, (finds_wholeWord hword).inside b c rest hb hc]; rfl
  word before run rest hrun hne hbefore hrest := by
    rw [wordAndBlanks_eq, (finds_wholeWord hword).word before run rest hrun hne hbefore hrest]
    split <;> rfl

theorem finds_anyWord {words : List String} (hwords : ∀ word ∈ words, IsKeyword word) :
    (anyWord words).Finds words some where
  sign before c rest hc hparen := by
    simp only [anyWord, List.findSome?_eq_none_iff]
    exact fun word hword => (finds_wholeWord (hwords word hword)).sign before c rest hc hparen
  inside b c rest hb hc := by
    simp only [anyWord, List.findSome?_eq_none_iff]
    exact fun word hword => (finds_wholeWord (hwords word hword)).inside b c rest hb hc
  word before run rest hrun hne hbefore hrest := by
    induction words with
    | nil => rfl
    | cons word words ih =>
        have hhead :=
          (finds_wholeWord (hwords word List.mem_cons_self)).word before run rest hrun hne
          hbefore hrest
        have htail := ih fun w hw => hwords w (List.mem_cons_of_mem _ hw)
        simp only [anyWord] at htail
        simp only [anyWord, List.findSome?_cons, hhead, htail, isOneOf, List.any_cons, List.any_nil,
          Bool.or_false]
        by_cases hw : (run.map foldLower == word.toList) = true <;> simp [hw]

/-- A closing parenthesis is looked for beside the words. -/
theorem Matcher.Finds.either_paren {m : Matcher} {words : List String}
    {further : List Char → Option (List Char)} (hm : m.Finds words further) :
    (either m (character ')')).Finds words further where
  sign before c rest hc hparen := by
    simp [either, hm.sign before c rest hc hparen, character, hparen]
  inside b c rest hb hc := by
    have hparen : c ≠ ')' := by rintro rfl; revert hc; decide
    simp [either, hm.inside b c rest hb hc, character, hparen]
  word before run rest hrun hne hbefore hrest := by
    cases run with
    | nil => exact absurd rfl hne
    | cons c run =>
        have hparen : c ≠ ')' := by
          rintro rfl
          have := hrun _ List.mem_cons_self
          revert this; decide
        rw [either, hm.word before (c :: run) rest hrun hne hbefore hrest]
        simp [character, hparen]

end JoinGraph.Pattern
