import JoinGraph.Proofs.PlainLayout

/-!
# Conjunctions in layouts

Of a condition only the part before the first conjunction is read: before `and` or `or` between
blanks, in quotes or not.  A layout of a plain statement has no conjunction, since neither word is
a token and none stands between blanks in a literal.

## Main results

* `beforeConjunction_eq_self_iff` — exactly the texts without the two words between blanks are
  read to their ends.
* `beforeConjunction_opening` — a quote or a parenthesis is in no conjunction.
* `Layout.not_standsBetweenBlanks` — layouts are such texts.
-/

namespace JoinGraph.Plain

open Text (isBlank isLowerLetter foldLower asciiLower)
open Pattern (afterWord? afterBlanks?)

/-! ## Words between blanks -/

/-- The words that join conditions. -/
def conjunctions : List String := ["and", "or"]

section Words

variable {word : List Char} {gap s rest : List Char}

/-- Letters that stand for themselves only, in either case. -/
def IsAsciiWord (word : List Char) : Prop :=
  word ≠ [] ∧ ∀ w ∈ word, isLowerLetter w = true ∧ w ≠ 's' ∧ w ≠ 'k'

theorem isAsciiWord_conjunction {word : String} (h : word ∈ conjunctions) :
    IsAsciiWord word.toList := by
  have hall : ∀ word ∈ conjunctions, word.toList ≠ [] ∧
      word.toList.all (fun w => isLowerLetter w && w != 's' && w != 'k') = true := by decide
  obtain ⟨hne, hletters⟩ := hall word h
  exact ⟨hne, by simpa [and_assoc] using hletters⟩

theorem foldLower_eq_iff {w : Char} (hletter : isLowerLetter w = true) (hs : w ≠ 's') (hk : w ≠ 'k')
    (c : Char) : foldLower c = w ↔ asciiLower c = w := by
  have hself : ∀ {n : Nat}, c.toNat = n → 128 ≤ n → asciiLower c ≠ w := by
    rintro n rfl hn rfl
    have hupper : ¬(65 ≤ c.toNat ∧ c.toNat ≤ 90) := by omega
    simp only [isLowerLetter, asciiLower, Bool.and_eq_true, decide_eq_true_eq,
      if_neg hupper] at hletter
    omega
  by_cases h1 : c.toNat = 0x17F
  · simp [foldLower, h1, Ne.symm hs, hself h1 (by decide)]
  by_cases h2 : c.toNat = 0x212A
  · simp [foldLower, h2, Ne.symm hk, hself h2 (by decide)]
  simp [foldLower, h1, h2]

/-- A conjunction is recognized at its word. -/
theorem startsWithWord_eq (hword : ∀ w ∈ word, isLowerLetter w = true ∧ w ≠ 's' ∧ w ≠ 'k')
    (s : List Char) : startsWithWord word s = ((afterWord? word s).bind afterBlanks?).isSome := by
  induction word generalizing s with
  | nil =>
      cases s with
      | nil => rfl
      | cons c s =>
          by_cases hc : isBlank c = true <;> simp [startsWithWord, afterWord?, afterBlanks?, hc]
  | cons w word ih =>
      obtain ⟨hletter, hs, hk⟩ := hword w List.mem_cons_self
      cases s with
      | nil => rfl
      | cons c s =>
          have hih := ih (fun x hx => hword x (List.mem_cons_of_mem _ hx)) s
          by_cases hc : asciiLower c = w
          · simp [startsWithWord, afterWord?, (foldLower_eq_iff hletter hs hk c).2 hc, hc, hih]
          · simp [startsWithWord, afterWord?, mt (foldLower_eq_iff hletter hs hk c).1 hc, hc]

theorem standsBetweenBlanks_append (hs : ∀ c ∈ s, isBlank c = false) :
    standsBetweenBlanks word (s ++ rest) = standsBetweenBlanks word rest := by
  induction s with
  | nil => rfl
  | cons c s ih =>
      rw [List.cons_append, standsBetweenBlanks, hs c List.mem_cons_self,
        ih fun d hd => hs d (List.mem_cons_of_mem _ hd)]
      rfl

/-- A word between blanks does not reach into the last word of a text. -/
theorem startsWithWord_append_of_no_blank {last : List Char} (hlast : ∀ c ∈ last, isBlank c = false)
    (s : List Char) : startsWithWord word (s ++ last) = startsWithWord word s := by
  have hnone : ∀ {word t : List Char}, (∀ c ∈ t, isBlank c = false) →
      startsWithWord word t = false := by
    intro word
    induction word with
    | nil =>
        intro t ht
        cases t with
        | nil => rfl
        | cons c t => simpa [startsWithWord] using ht c List.mem_cons_self
    | cons w word ih =>
        intro t ht
        cases t with
        | nil => rfl
        | cons c t =>
            rw [startsWithWord, ih fun d hd => ht d (List.mem_cons_of_mem _ hd), Bool.and_false]
  induction word generalizing s with
  | nil =>
      cases s with
      | nil => rw [List.nil_append, hnone hlast, hnone (by simp)]
      | cons c s => rfl
  | cons w word ih =>
      cases s with
      | nil => rw [List.nil_append, hnone hlast, hnone (by simp)]
      | cons c s => rw [List.cons_append, startsWithWord, startsWithWord, ih]

theorem standsBetweenBlanks_append_of_no_blank {last : List Char}
    (hlast : ∀ c ∈ last, isBlank c = false) (s : List Char) :
    standsBetweenBlanks word (s ++ last) = standsBetweenBlanks word s := by
  induction s with
  | nil =>
      have hpass : standsBetweenBlanks word (last ++ []) = standsBetweenBlanks word [] :=
        standsBetweenBlanks_append hlast
      simpa [standsBetweenBlanks] using hpass
  | cons c s ih =>
      rw [List.cons_append, standsBetweenBlanks, standsBetweenBlanks,
        startsWithWord_append_of_no_blank hlast, ih]

theorem startsWithWord_blank (hword : IsAsciiWord word) {c : Char} (hc : isBlank c = true) :
    startsWithWord word (c :: rest) = false := by
  obtain ⟨hne, hletters⟩ := hword
  cases word with
  | nil => exact absurd rfl hne
  | cons w word =>
      have hne : asciiLower c ≠ w := by
        rintro rfl
        have hpart : isTokenPart c = true := by
          simp [isTokenPart, isIdentifierPart_of_asciiLower (hletters _ List.mem_cons_self).1]
        simp [(plainPart_of_isTokenPart hpart).blank] at hc
      simp [startsWithWord, hne]

/-- Of several blanks only the last one is before a word. -/
theorem standsBetweenBlanks_blanks_append (hword : IsAsciiWord word)
    (hgap : ∀ c ∈ gap, isBlank c = true) (hstarts : startsWithWord word s = false)
    (hs : standsBetweenBlanks word s = false) : standsBetweenBlanks word (gap ++ s) = false := by
  induction gap with
  | nil => exact hs
  | cons c gap ih =>
      have hih := ih fun d hd => hgap d (List.mem_cons_of_mem _ hd)
      have hfront : startsWithWord word (gap ++ s) = false := by
        cases gap with
        | nil => exact hstarts
        | cons d gap => exact startsWithWord_blank hword (hgap d (by simp))
      rw [List.cons_append, standsBetweenBlanks, hfront, hih, Bool.and_false, Bool.or_false]

/-- A quote or a parenthesis, which is in no word between blanks. -/
def IsOpening (c : Char) : Prop := c = '\'' ∨ c = '('

theorem IsOpening.not_blank {c : Char} (h : IsOpening c) : isBlank c = false := by
  rcases h with rfl | rfl <;> decide

theorem IsOpening.not_comparison {c : Char} (h : IsOpening c) :
    Pattern.isComparisonPart c = false := by
  rcases h with rfl | rfl <;> decide

theorem IsOpening.ne_paren {c : Char} (h : IsOpening c) : c ≠ ')' := by
  rcases h with rfl | rfl <;> decide

theorem startsWithWord_opening (hword : ∀ w ∈ word, isLowerLetter w = true) {c : Char}
    (hc : IsOpening c) (s rest : List Char) :
    startsWithWord word (s ++ c :: rest) = startsWithWord word s := by
  induction word generalizing s with
  | nil =>
      cases s with
      | nil => simp [startsWithWord, hc.not_blank]
      | cons d s => rfl
  | cons w word ih =>
      cases s with
      | nil =>
          have hne : asciiLower c ≠ w := by
            rintro rfl
            refine absurd (hword _ List.mem_cons_self) ?_
            rcases hc with rfl | rfl <;> decide
          simp [startsWithWord, hne]
      | cons d s => simp [startsWithWord, ih fun x hx => hword x (List.mem_cons_of_mem _ hx)]

/-- A quote or a parenthesis is between two words. -/
theorem standsBetweenBlanks_opening (hword : IsAsciiWord word) {c : Char} (hc : IsOpening c)
    (s rest : List Char) : standsBetweenBlanks word (s ++ c :: rest) =
      (standsBetweenBlanks word s || standsBetweenBlanks word rest) := by
  induction s with
  | nil => simp [standsBetweenBlanks, hc.not_blank]
  | cons d s ih =>
      rw [List.cons_append, standsBetweenBlanks, standsBetweenBlanks,
        startsWithWord_opening (fun w hw => (hword.2 w hw).1) hc, ih, Bool.or_assoc]

/-- Behind blanks a word stands between blanks if one stands at the front of what they leave. -/
theorem startsWithWord_trimFront {c : Char} (hword : word ≠ []) (hc : isBlank c = true)
    (h : standsBetweenBlanks word (c :: s) = false) :
    startsWithWord word (Text.trimFront s) = false := by
  induction s generalizing c with
  | nil =>
      cases word with
      | nil => exact absurd rfl hword
      | cons w word => rfl
  | cons d s ih =>
      rw [standsBetweenBlanks, hc, Bool.true_and, Bool.or_eq_false_iff] at h
      cases hd : isBlank d with
      | false => rw [Text.trimFront_cons hd]; exact h.1
      | true => rw [Text.trimFront_cons_blank hd]; exact ih hd h.2

end Words

/-! ## Conditions -/

theorem startsConjunction_eq_false {s : List Char}
    (h : ∀ word ∈ conjunctions, standsBetweenBlanks word.toList s = false) :
    Pattern.startsConjunction s = false := by
  cases s with
  | nil => rfl
  | cons c s =>
      cases hc : isBlank c with
      | false => simp [Pattern.startsConjunction, afterBlanks?, hc]
      | true =>
          have hnone : ∀ word ∈ conjunctions,
              ((afterWord? word.toList (Text.trimFront s)).bind afterBlanks?).isSome = false := by
            intro word hmem
            have hword := isAsciiWord_conjunction hmem
            rw [← startsWithWord_eq hword.2]
            exact startsWithWord_trimFront hword.1 hc (h word hmem)
          simp only [Pattern.startsConjunction, afterBlanks?, hc, if_true]
          exact List.any_eq_false.2 fun word hmem => by simp [hnone word hmem]

theorem startsConjunction_of_word {s : List Char} {word : String}
    (hmem : word ∈ conjunctions) {c : Char}
    (hc : isBlank c = true) (hs : startsWithWord word.toList s = true) :
    Pattern.startsConjunction (c :: s) = true := by
  have hword := isAsciiWord_conjunction hmem
  have htrim : Text.trimFront s = s := by
    cases s with
    | nil => rfl
    | cons d s =>
        refine Text.trimFront_cons (Bool.eq_false_iff.2 fun hd => ?_) s
        exact Bool.false_ne_true ((startsWithWord_blank hword hd).symm.trans hs)
  simp only [Pattern.startsConjunction, afterBlanks?, hc, if_true, htrim]
  exact List.any_eq_true.2 ⟨word, hmem, by rw [← startsWithWord_eq hword.2, hs]⟩

/-- A condition is read to its end exactly if it has no conjunction. -/
theorem beforeConjunction_eq_self_iff {s : List Char} : Pattern.beforeConjunction s = s ↔
    ∀ word ∈ conjunctions, standsBetweenBlanks word.toList s = false := by
  induction s with
  | nil => exact iff_of_true rfl fun word _ => rfl
  | cons c s ih =>
      rw [Pattern.beforeConjunction]
      constructor
      · intro h word hmem
        have hword := isAsciiWord_conjunction hmem
        cases hstarts : Pattern.startsConjunction (c :: s) with
        | true => simp [hstarts] at h
        | false =>
            simp only [hstarts, Bool.false_eq_true, if_false, List.cons.injEq, true_and] at h
            have hnone : ¬(isBlank c = true ∧ startsWithWord word.toList s = true) := by
              rintro ⟨hc, hs⟩
              exact Bool.false_ne_true (hstarts.symm.trans (startsConjunction_of_word hmem hc hs))
            rw [standsBetweenBlanks, ih.1 h word hmem, Bool.or_false, Bool.and_eq_false_iff]
            by_cases hc : isBlank c = true
            · exact .inr (Bool.eq_false_iff.2 fun hs => hnone ⟨hc, hs⟩)
            · exact .inl (Bool.eq_false_iff.2 hc)
      · intro h
        have hs : ∀ word ∈ conjunctions, standsBetweenBlanks word.toList s = false := by
          intro word hmem
          have hcons := h word hmem
          rw [standsBetweenBlanks, Bool.or_eq_false_iff] at hcons
          exact hcons.2
        rw [startsConjunction_eq_false h, ih.2 hs]
        rfl

/-- A quote or a parenthesis is in no conjunction. -/
theorem startsConjunction_opening {c : Char} (hc : IsOpening c) (s rest : List Char) :
    Pattern.startsConjunction (s ++ c :: rest) = Pattern.startsConjunction s := by
  cases s with
  | nil => simp [Pattern.startsConjunction, afterBlanks?, hc.not_blank]
  | cons d s =>
      cases hd : isBlank d with
      | false => simp [Pattern.startsConjunction, afterBlanks?, hd]
      | true =>
          have hword : ∀ word ∈ conjunctions, ∀ t : List Char,
              ((afterWord? word.toList (t ++ c :: rest)).bind afterBlanks?).isSome =
                ((afterWord? word.toList t).bind afterBlanks?).isSome := by
            intro word hmem t
            have hletters := (isAsciiWord_conjunction hmem).2
            rw [← startsWithWord_eq hletters, ← startsWithWord_eq hletters,
              startsWithWord_opening (fun w hw => (hletters w hw).1) hc]
          simp only [Pattern.startsConjunction, List.cons_append, afterBlanks?, hd, if_true,
            Text.trimFront_append hc.not_blank, List.any_cons, List.any_nil,
            hword "and" (by decide), hword "or" (by decide)]

/-- The first conjunction stands before a quote or a parenthesis, or behind it. -/
theorem beforeConjunction_opening {c : Char} (hc : IsOpening c) (s rest : List Char) :
    Pattern.beforeConjunction (s ++ c :: rest) =
      if Pattern.beforeConjunction s = s then s ++ c :: Pattern.beforeConjunction rest
      else Pattern.beforeConjunction s := by
  induction s with
  | nil =>
      have hnone : Pattern.startsConjunction (c :: rest) = false :=
        startsConjunction_opening hc [] rest
      simp [Pattern.beforeConjunction, hnone]
  | cons d s ih =>
      have hstarts := startsConjunction_opening hc (d :: s) rest
      rw [List.cons_append] at hstarts ⊢
      rw [Pattern.beforeConjunction, hstarts, Pattern.beforeConjunction, ih]
      cases Pattern.startsConjunction (d :: s) with
      | true => simp
      | false => by_cases hs : Pattern.beforeConjunction s = s <;> simp [hs]

theorem Literal.not_standsBetweenBlanks (l : Literal) {word : String} (h : word ∈ conjunctions) :
    standsBetweenBlanks word.toList l.text.toList = false := by
  simpa using List.any_eq_false.1 l.noConjunction word h

/-- No conjunction stands in a layout. -/
theorem Layout.not_standsBetweenBlanks {ts : List Token} {text : List Char} (h : Layout ts text)
    {word : String} (hmem : word ∈ conjunctions) :
    standsBetweenBlanks word.toList text = false := by
  have hword := isAsciiWord_conjunction hmem
  induction h with
  | @nil gap hgap =>
      have hnil : startsWithWord word.toList [] = false := by
        cases hw : word.toList with
        | nil => exact absurd hw hword.1
        | cons w letters => rfl
      simpa using standsBetweenBlanks_blanks_append hword hgap hnil rfl
  | @cons t ts gap s rest hgap hs hends hrest ih =>
      have hreserved : conjunctions ⊆ reservedWords := by decide
      have hkeywords : ∀ k : Keyword, k.text ∉ conjunctions := by
        intro k; cases k <;> decide
      have hfree : Pattern.Free conjunctions [] (s ++ rest) :=
        (Layout.of_token hs hends hrest).free hreserved (fun k _ => hkeywords k) (by simp) (by simp)
      have hstarts : startsWithWord word.toList (s ++ rest) = false := by
        have hkeyword : Pattern.IsKeyword word :=
          ⟨hword.1, List.all_eq_true.2 fun w hw => (hword.2 w hw).1⟩
        rw [startsWithWord_eq hword.2, hfree.afterWord? hmem hkeyword]
        rfl
      refine standsBetweenBlanks_blanks_append hword hgap hstarts ?_
      by_cases hl : ∃ l, t = .literal l
      · obtain ⟨l, rfl⟩ := hl
        cases hs
        have hquote : isBlank '\'' = false := by decide
        rw [List.cons_append, standsBetweenBlanks, hquote, List.append_assoc, List.singleton_append,
          standsBetweenBlanks_opening hword (.inl rfl), l.not_standsBetweenBlanks hmem, ih]
        rfl
      · rw [standsBetweenBlanks_append fun c hc => ?_]
        · exact ih
        · exact not_blank_of_isEdge (hs.edges (fun l hl' => hl ⟨l, hl'⟩) c hc)

end JoinGraph.Plain
