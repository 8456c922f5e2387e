import JoinGraph.Proofs.WordMatch
import JoinGraph.Proofs.BlankSplit
import JoinGraph.Proofs.CommentScan
import Mathlib.Data.List.Infix

/-!
# Where what is read stands

Reading by pattern cuts its parts out of the text: a matcher leaves the end of what it is given, a
scan the text before and behind a match, a splitter the pieces between separators.  So what is
read stands in the text as one piece.  Comments are no exception: they leave a blank, which no
name has in it.

## Main results

* `Matcher.Cuts` — what a matcher leaves is the end of the text; the matchers for words do so.
* `mem_occurrences`, `first?_isInfix`, `textBefore_isPrefix`, `infix_of_mem_splitTop` — what scans
  cut out.
* `infix_of_prepare` — what has no blank in it and stands in a prepared text stands in the text
  itself.
-/

namespace JoinGraph.Text

variable {s w : List Char}

/-! ## Trimming and splitting -/

theorem trimBack_isPrefix (s : List Char) : trimBack s <+: s := List.rdropWhile_prefix isBlank s

theorem trimFront_isSuffix (s : List Char) : trimFront s <:+ s := List.dropWhile_suffix isBlank

theorem trimChars_isInfix (s : List Char) : trimChars s <:+: s :=
  (trimBack_isPrefix _).isInfix.trans (trimFront_isSuffix s).isInfix

/-- A word stands in its text, and has characters but no blanks. -/
theorem mem_wordsFrom {word : List Char} (h : w ∈ wordsFrom word s)
    (hword : ∀ c ∈ word, isBlank c = false) :
    w <:+: word.reverse ++ s ∧ w ≠ [] ∧ ∀ c ∈ w, isBlank c = false := by
  induction s generalizing word with
  | nil =>
      cases word with
      | nil => simp [wordsFrom] at h
      | cons c word =>
          obtain rfl : w = (c :: word).reverse := by simpa [wordsFrom] using h
          exact ⟨by simp, by simp, fun x hx => hword x (List.mem_reverse.1 hx)⟩
  | cons c s ih =>
      rw [wordsFrom] at h
      split at h
      · split at h
        · obtain ⟨hwithin, hw⟩ := ih h (by simp)
          exact ⟨(hwithin.trans (List.suffix_cons c s).isInfix).trans
            (List.suffix_append _ _).isInfix, hw⟩
        · next hne =>
            rcases List.mem_cons.1 h with rfl | h
            · refine ⟨(List.prefix_append _ _).isInfix, by simpa using hne, fun x hx => ?_⟩
              exact hword x (List.mem_reverse.1 hx)
            · obtain ⟨hwithin, hw⟩ := ih h (by simp)
              exact ⟨(hwithin.trans (List.suffix_cons c s).isInfix).trans
                (List.suffix_append _ _).isInfix,
                hw⟩
      · next hc =>
          have hih := ih h fun x hx => by
            rcases List.mem_cons.1 hx with rfl | hx
            · simpa using hc
            · exact hword x hx
          simpa using hih

theorem mem_words (h : w ∈ words s) : w <:+: s ∧ w ≠ [] ∧ ∀ c ∈ w, isBlank c = false :=
  mem_wordsFrom h (by simp)

/-- The parts before and behind a separator stand in the text. -/
theorem splitOnce?_isInfix {separator : Char} {left right : List Char}
    (h : splitOnce? separator s = some (left, right)) : left <:+: s ∧ right <:+: s := by
  rw [splitOnce?] at h
  split at h
  · cases h
  · next c rest hdrop =>
      obtain ⟨rfl, rfl⟩ : s.takeWhile (· ≠ separator) = left ∧ rest = right := by simpa using h
      refine ⟨(List.takeWhile_prefix _).isInfix, ?_⟩
      have hsuffix : c :: rest <:+ s := hdrop ▸ List.dropWhile_suffix _
      exact ((List.suffix_cons c rest).trans hsuffix).isInfix

end JoinGraph.Text

namespace JoinGraph.Pattern

open Text (isBlank)

variable {s w : List Char}

/-- What stands in the chosen characters of a text is what is chosen of a piece of it. -/
theorem infix_of_filter {p : Char → Bool} (h : w <:+: s.filter p) :
    ∃ v, v <:+: s ∧ v.filter p = w := by
  obtain ⟨before, after, heq⟩ := h
  obtain ⟨front, back, rfl, hfront, -⟩ := List.filter_eq_append_iff.1 heq.symm
  obtain ⟨lead, v, rfl, -, hv⟩ := List.filter_eq_append_iff.1 hfront
  exact ⟨v, ⟨lead, back, rfl⟩, hv⟩

/-! ## Parts -/

theorem infix_of_mem_joinParts (separator : Char) {part : List Char} {parts : List (List Char)}
    (h : part ∈ parts) : part <:+: joinParts separator parts := by
  induction parts with
  | nil => simp at h
  | cons first parts ih =>
      cases parts with
      | nil =>
          obtain rfl : part = first := by simpa using h
          exact List.infix_refl part
      | cons next parts =>
          have hcons : joinParts separator (first :: next :: parts) =
              first ++ separator :: joinParts separator (next :: parts) := rfl
          rw [hcons]
          rcases List.mem_cons.1 h with rfl | h
          · exact (List.prefix_append _ _).isInfix
          · exact (ih h).trans ((List.suffix_cons _ _).trans (List.suffix_append _ _)).isInfix

theorem infix_of_mem_splitTop {separator : Char} {part : List Char}
    (h : part ∈ splitTop separator s) :
    part <:+: s := by
  simpa only [joinParts_splitTop] using infix_of_mem_joinParts separator h

theorem joinParts_append {separator : Char} {parts : List (List Char)} (hne : parts ≠ [])
    (last : List Char) :
    joinParts separator (parts ++ [last]) = joinParts separator parts ++ separator :: last := by
  induction parts with
  | nil => exact absurd rfl hne
  | cons part parts ih =>
      cases parts with
      | nil => rfl
      | cons next parts =>
          have hnext := ih (List.cons_ne_nil _ _)
          simp only [List.cons_append] at hnext
          simp only [List.cons_append, joinParts, hnext, List.append_assoc]

theorem joinParts_splitChars (separator : Char) (s : List Char) :
    joinParts separator (Text.splitChars separator s) = s := by
  induction s with
  | nil => rfl
  | cons c s ih =>
      have hne := Text.splitChars_ne_nil separator s
      rw [Text.splitChars]
      generalize Text.splitChars separator s = parts at ih hne
      obtain ⟨part, parts, rfl⟩ := List.exists_cons_of_ne_nil hne
      split
      · next hc => simp [joinParts, ih, hc]
      · exact (joinParts_consToFirst separator c (List.cons_ne_nil part parts)).trans (by rw [ih])

theorem infix_of_mem_splitChars {separator : Char} {part : List Char}
    (h : part ∈ Text.splitChars separator s) : part <:+: s := by
  simpa only [joinParts_splitChars] using infix_of_mem_joinParts separator h

/-- No separator is left in the parts. -/
theorem not_mem_of_mem_splitChars {separator : Char} {part : List Char}
    (h : part ∈ Text.splitChars separator s) : separator ∉ part := by
  induction s generalizing part with
  | nil =>
      obtain rfl : part = [] := by simpa [Text.splitChars] using h
      simp
  | cons c s ih =>
      rw [Text.splitChars] at h
      split at h
      · rcases List.mem_cons.1 h with rfl | h
        · simp
        · exact ih h
      · next hc =>
          obtain ⟨first, parts, hparts⟩ :=
            List.exists_cons_of_ne_nil (Text.splitChars_ne_nil separator s)
          simp only [hparts] at h ih
          rcases List.mem_cons.1 h with rfl | h
          · simpa [Ne.symm hc] using ih List.mem_cons_self
          · exact ih (List.mem_cons_of_mem _ h)

theorem beforeConjunction_isPrefix (s : List Char) : beforeConjunction s <+: s := by
  induction s with
  | nil => exact List.prefix_refl _
  | cons c s ih =>
      rw [beforeConjunction]
      split
      · exact List.nil_prefix
      · exact List.cons_prefix_cons.2 ⟨rfl, ih⟩

/-! ## Matchers -/

theorem afterWord?_isSuffix {word rest : List Char} (h : afterWord? word s = some rest) :
    rest <:+ s := by
  induction word generalizing s with
  | nil =>
      obtain rfl : s = rest := by simpa [afterWord?] using h
      exact List.suffix_refl s
  | cons w word ih =>
      cases s with
      | nil => simp [afterWord?] at h
      | cons c s =>
          rw [afterWord?] at h
          split at h
          · exact (ih h).trans (List.suffix_cons c s)
          · cases h

theorem afterBlanks?_isSuffix {rest : List Char} (h : afterBlanks? s = some rest) : rest <:+ s := by
  cases s with
  | nil => simp [afterBlanks?] at h
  | cons c s =>
      rw [afterBlanks?] at h
      split at h
      · obtain rfl : Text.trimFront s = rest := by simpa using h
        exact (Text.trimFront_isSuffix s).trans (List.suffix_cons c s)
      · cases h

/-- What a matcher leaves is the end of the text. -/
def Matcher.Cuts (m : Matcher) : Prop := ∀ before s rest, m before s = some rest → rest <:+ s

theorem cuts_wholeWord (word : String) : (wholeWord word).Cuts := by
  intro before s rest h
  rw [wholeWord] at h
  split at h
  · exact afterWord?_isSuffix (Option.filter_eq_some_iff.1 h).1
  · cases h

theorem cuts_wordAndBlanks (word : String) : (wordAndBlanks word).Cuts := by
  intro before s rest h
  rw [wordAndBlanks_eq] at h
  obtain ⟨t, ht, hrest⟩ := Option.bind_eq_some_iff.1 h
  exact (afterBlanks?_isSuffix hrest).trans (cuts_wholeWord word before s t ht)

theorem cuts_anyWord (words : List String) : (anyWord words).Cuts := by
  intro before s rest h
  obtain ⟨word, -, hword⟩ := List.exists_of_findSome?_eq_some h
  exact cuts_wholeWord word before s rest hword

theorem cuts_character (wanted : Char) : (character wanted).Cuts := by
  intro before s rest h
  cases s with
  | nil => cases h
  | cons c s =>
      simp only [character, Option.ite_none_right_eq_some, Option.some.injEq] at h
      exact h.2 ▸ List.suffix_cons c s

theorem Matcher.Cuts.either {first second : Matcher} (hfirst : first.Cuts) (hsecond : second.Cuts) :
    (either first second).Cuts := by
  intro before s rest h
  rw [Pattern.either] at h
  cases hmatch : first before s with
  | none =>
      rw [hmatch] at h
      exact hsecond before s rest h
  | some after =>
      rw [hmatch] at h
      exact hfirst before s rest (hmatch.trans h)

/-! ## Scans -/

section Scans

variable {m : Matcher}

theorem mem_occurrencesFrom (hm : m.Cuts) {n : Nesting} {passed : List Char} {found : Occurrence}
    (h : found ∈ occurrencesFrom m n passed s) :
    found.before <+: passed.reverse ++ s ∧ found.after <:+ s := by
  induction s generalizing n passed with
  | nil => simp [occurrencesFrom] at h
  | cons c s ih =>
      have hfurther : found ∈ occurrencesFrom m (n.step c) (c :: passed) s →
          found.before <+: passed.reverse ++ c :: s ∧ found.after <:+ c :: s := fun h => by
        obtain ⟨hbefore, hafter⟩ := ih h
        exact ⟨by simpa using hbefore, hafter.trans (List.suffix_cons c s)⟩
      rw [occurrencesFrom] at h
      split at h
      · cases hmatch : m passed.head? (c :: s) with
        | none =>
            simp only [hmatch] at h
            exact hfurther h
        | some after =>
            simp only [hmatch] at h
            rcases List.mem_cons.1 h with rfl | h
            · exact ⟨List.prefix_append _ _, hm _ _ _ hmatch⟩
            · exact hfurther h
      · exact hfurther h

/-- A match stands between two pieces of the text. -/
theorem mem_occurrences (hm : m.Cuts) {found : Occurrence} (h : found ∈ occurrences m s) :
    found.before <+: s ∧ found.after <:+ s :=
  mem_occurrencesFrom hm h

theorem first?_isInfix (hm : m.Cuts) {found : Occurrence} (h : first? m s = some found) :
    found.before <+: s ∧ found.after <:+ s := by
  rw [first?_eq_head?] at h
  exact mem_occurrences hm (List.mem_of_mem_head? h)

theorem textBefore_isPrefix (hm : m.Cuts) (s : List Char) : textBefore m s <+: s := by
  rw [textBefore]
  cases h : first? m s with
  | none => exact List.prefix_refl s
  | some found => exact (first?_isInfix hm h).1

end Scans

/-! ## Comments -/

theorem afterBlock_isSuffix (s : List Char) : afterBlock s <:+ s := by
  fun_induction afterBlock s with
  | case1 rest => exact (List.suffix_cons '/' rest).trans (List.suffix_cons '*' _)
  | case2 c rest _ ih => exact ih.trans (List.suffix_cons c rest)
  | case3 => exact List.suffix_refl []

theorem eq_nil_of_prefix_blank (hw : ∀ c ∈ w, isBlank c = false) {rest : List Char}
    (h : w <+: ' ' :: rest) : w = [] := by
  cases w with
  | nil => rfl
  | cons c w =>
      obtain ⟨rfl, -⟩ := List.cons_prefix_cons.1 h
      exact absurd (hw _ List.mem_cons_self) (by decide)

theorem prefix_cons_of_prefix_cons (hw : ∀ c ∈ w, isBlank c = false) {c : Char} {t rest : List Char}
    (h : w <+: c :: t)
    (hrest : ∀ {w : List Char}, (∀ c ∈ w, isBlank c = false) → w <+: t → w <+: rest) :
    w <+: c :: rest := by
  cases w with
  | nil => exact List.nil_prefix
  | cons d w =>
      obtain ⟨rfl, hfurther⟩ := List.cons_prefix_cons.1 h
      exact List.cons_prefix_cons.2
        ⟨rfl, hrest (fun x hx => hw x (List.mem_cons_of_mem _ hx)) hfurther⟩

theorem prefix_of_withoutCommentsFrom {quote : Option Char} (hw : ∀ c ∈ w, isBlank c = false)
    (h : w <+: withoutCommentsFrom quote s) : w <+: s := by
  fun_induction withoutCommentsFrom quote s generalizing w with
  | case1 => exact h
  | case2 opening c rest ih => exact prefix_cons_of_prefix_cons hw h ih
  | case3 rest ih => exact eq_nil_of_prefix_blank hw h ▸ List.nil_prefix
  | case4 rest ih => exact eq_nil_of_prefix_blank hw h ▸ List.nil_prefix
  | case5 c rest _ _ ih => exact prefix_cons_of_prefix_cons hw h ih

theorem infix_of_withoutCommentsFrom (quote : Option Char) (hw : ∀ c ∈ w, isBlank c = false)
    (h : w <:+: withoutCommentsFrom quote s) : w <:+: s := by
  -- What starts at the front goes on at the front; what starts further on does so behind it.
  fun_induction withoutCommentsFrom quote s with
  | case1 => exact h
  | case2 opening c rest ih =>
      rcases List.infix_cons_iff.1 h with h | h
      · exact (prefix_cons_of_prefix_cons hw h prefix_of_withoutCommentsFrom).isInfix
      · exact (ih h).trans (List.suffix_cons c rest).isInfix
  | case3 rest ih =>
      rcases List.infix_cons_iff.1 h with h | h
      · exact eq_nil_of_prefix_blank hw h ▸ List.nil_infix
      · have hsuffix : afterLine rest <:+ rest := List.dropWhile_suffix _
        exact ((ih h).trans hsuffix.isInfix).trans
          ((List.suffix_cons '-' rest).trans (List.suffix_cons '-' _)).isInfix
  | case4 rest ih =>
      rcases List.infix_cons_iff.1 h with h | h
      · exact eq_nil_of_prefix_blank hw h ▸ List.nil_infix
      · exact ((ih h).trans (afterBlock_isSuffix rest).isInfix).trans
          ((List.suffix_cons '*' rest).trans (List.suffix_cons '/' _)).isInfix
  | case5 c rest _ _ ih =>
      rcases List.infix_cons_iff.1 h with h | h
      · exact (prefix_cons_of_prefix_cons hw h prefix_of_withoutCommentsFrom).isInfix
      · exact (ih h).trans (List.suffix_cons c rest).isInfix

/-- What has no blank in it stands in the text if it stands there without comments and
semicolons. -/
theorem infix_of_prepare (hw : ∀ c ∈ w, isBlank c = false) (h : w <:+: prepare s) : w <:+: s := by
  refine infix_of_withoutCommentsFrom none hw (h.trans ?_)
  have hsemicolons : ∀ t : List Char, (t.reverse.dropWhile (· = ';')).reverse <+: t := fun t =>
    List.rdropWhile_prefix _ t
  exact (((Text.trimBack_isPrefix _).trans (hsemicolons _)).isInfix).trans
    (Text.trimChars_isInfix _)

end JoinGraph.Pattern
