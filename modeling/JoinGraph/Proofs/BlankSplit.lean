import JoinGraph.Text.Trim
import Mathlib.Data.List.DropRight
import Mathlib.Data.List.TakeWhile

/-!
# Blanks around and between words

Trimming takes off the blanks at the ends and nothing else; splitting at blanks gives the words
between them.  The lemmas tell both for a text that is given in pieces.

## Main results

* `trimFront_blanks_append`, `trimBack_append` — trimming stops at the first character that is no
  blank.
* `words_blanks_append`, `words_append` — a word ends at the blanks behind it.
-/

namespace JoinGraph.Text

variable {gap s rest : List Char} {c : Char}

/-! ## Trimming pieces -/

@[simp] theorem trimFront_nil : trimFront [] = [] := rfl

theorem trimFront_cons_blank (hc : isBlank c = true) (s : List Char) :
    trimFront (c :: s) = trimFront s := by
  simp [trimFront, hc]

theorem trimFront_cons (hc : isBlank c = false) (s : List Char) : trimFront (c :: s) = c :: s := by
  simp [trimFront, hc]

/-- Blanks in front go. -/
theorem trimFront_blanks_append (hgap : ∀ c ∈ gap, isBlank c = true) (s : List Char) :
    trimFront (gap ++ s) = trimFront s := by
  rw [trimFront, List.dropWhile_append_of_pos hgap]
  rfl

/-- What stands behind a character that is no blank stays. -/
theorem trimFront_append (hc : isBlank c = false) (s rest : List Char) :
    trimFront (s ++ c :: rest) = trimFront s ++ c :: rest := by
  induction s with
  | nil => exact trimFront_cons hc rest
  | cons d s ih =>
      cases hd : isBlank d with
      | false => rw [List.cons_append, trimFront_cons hd, trimFront_cons hd, List.cons_append]
      | true => rw [List.cons_append, trimFront_cons_blank hd, trimFront_cons_blank hd, ih]

theorem trimBack_blanks (hgap : ∀ c ∈ gap, isBlank c = true) : trimBack gap = [] := by
  simpa [trimBack, List.dropWhile_eq_nil_iff] using hgap

/-- What stands before a character that is not dropped stays. -/
theorem rdropWhile_append {p : Char → Bool} (hc : p c = false) (s rest : List Char) :
    (s ++ c :: rest).rdropWhile p = s ++ c :: rest.rdropWhile p := by
  have hback : (c :: s.reverse).dropWhile p = c :: s.reverse := by simp [hc]
  simp only [List.rdropWhile, List.reverse_append, List.reverse_cons, List.append_assoc,
    List.cons_append, List.nil_append, List.dropWhile_append, hback]
  split
  · next h => simp [List.isEmpty_iff.1 h]
  · simp

/-- A character that is dropped goes only with all behind it. -/
theorem rdropWhile_cons {p : Char → Bool} (hc : p c = true) (s : List Char) :
    (c :: s).rdropWhile p = if s.rdropWhile p = [] then [] else c :: s.rdropWhile p := by
  simp only [List.rdropWhile, List.reverse_cons, List.dropWhile_append, List.reverse_eq_nil_iff,
    List.isEmpty_iff]
  by_cases hs : s.reverse.dropWhile p = []
  · simp [hs, hc]
  · simp [hs]

/-- What stands before a character that is no blank stays. -/
theorem trimBack_append (hc : isBlank c = false) (s rest : List Char) :
    trimBack (s ++ c :: rest) = s ++ c :: trimBack rest :=
  rdropWhile_append hc s rest

/-- Trimming takes blanks only. -/
theorem mem_trimChars (hc : isBlank c = false) (hmem : c ∈ s) : c ∈ trimChars s := by
  obtain ⟨before, after, rfl⟩ := List.append_of_mem hmem
  rw [trimChars, trimFront_append hc, trimBack_append hc]
  simp

theorem trimChars_of_ends (hs : trimFront s = s) (hrest : trimBack s = s) : trimChars s = s := by
  rw [trimChars, hs, hrest]

/-- Blanks in front go, whether or not the text is filtered before. -/
theorem trimFront_filter_trimFront (p : Char → Bool) (s : List Char) :
    trimFront ((trimFront s).filter p) = trimFront (s.filter p) := by
  induction s with
  | nil => rfl
  | cons c s ih =>
      cases hc : isBlank c with
      | false => rw [trimFront_cons hc]
      | true =>
          rw [trimFront_cons_blank hc, ih, List.filter_cons]
          split
          · rw [trimFront_cons_blank hc]
          · rfl

theorem trimBack_filter_trimBack (p : Char → Bool) (s : List Char) :
    trimBack ((trimBack s).filter p) = trimBack (s.filter p) := by
  have hback : ∀ s, trimBack s = (trimFront s.reverse).reverse := fun _ => rfl
  simp only [hback, List.filter_reverse, List.reverse_reverse, trimFront_filter_trimFront]

/-- It does not matter on which side blanks are dropped first. -/
theorem trimFront_trimBack (s : List Char) : trimFront (trimBack s) = trimBack (trimFront s) := by
  by_cases hblank : ∀ c ∈ s, isBlank c = true
  · have hfront : trimFront s = [] := by simpa [trimFront] using hblank
    rw [trimBack_blanks hblank, hfront]
    rfl
  · obtain ⟨c, hmem, hc⟩ : ∃ c ∈ s, isBlank c = false := by simpa using hblank
    obtain ⟨before, after, rfl⟩ := List.append_of_mem hmem
    rw [trimBack_append hc, trimFront_append hc, trimFront_append hc, trimBack_append hc]

/-- A text without blanks is not trimmed. -/
theorem trimChars_of_no_blank (hs : ∀ c ∈ s, isBlank c = false) : trimChars s = s := by
  have hdrop : ∀ {t : List Char}, (∀ c ∈ t, isBlank c = false) → t.dropWhile isBlank = t := by
    intro t ht
    cases t with
    | nil => rfl
    | cons c t => simp [ht c List.mem_cons_self]
  refine trimChars_of_ends (hdrop hs) ?_
  rw [trimBack, hdrop fun c hc => hs c (List.mem_reverse.1 hc), List.reverse_reverse]

/-! ## Splitting at blanks -/

theorem wordsFrom_append (hs : ∀ c ∈ s, isBlank c = false) (word : List Char) :
    wordsFrom word (s ++ rest) = wordsFrom (s.reverse ++ word) rest := by
  induction s generalizing word with
  | nil => rfl
  | cons c s ih =>
      have hc : isBlank c = false := hs c List.mem_cons_self
      rw [List.cons_append, wordsFrom, if_neg (by simp [hc]),
        ih fun d hd => hs d (List.mem_cons_of_mem _ hd)]
      simp

/-- Blanks in front of a word do not count. -/
theorem words_blanks_append (hgap : ∀ c ∈ gap, isBlank c = true) (s : List Char) :
    words (gap ++ s) = words s := by
  induction gap with
  | nil => rfl
  | cons c gap ih =>
      have hc : isBlank c = true := hgap c List.mem_cons_self
      rw [← ih fun d hd => hgap d (List.mem_cons_of_mem _ hd)]
      simp [words, wordsFrom, hc]

/-- A word ends at a blank or with the text. -/
theorem words_append (hne : s ≠ []) (hs : ∀ c ∈ s, isBlank c = false)
    (hrest : rest.head?.all isBlank = true) : words (s ++ rest) = s :: words rest := by
  rw [words, wordsFrom_append hs, List.append_nil]
  cases rest with
  | nil => simp [wordsFrom, words, hne]
  | cons c rest =>
      have hc : isBlank c = true := by simpa using hrest
      simp [wordsFrom, words, hc, hne]

/-- Blanks behind the last word do not count. -/
theorem wordsFrom_append_blanks (hgap : ∀ c ∈ gap, isBlank c = true) (word s : List Char) :
    wordsFrom word (s ++ gap) = wordsFrom word s := by
  induction s generalizing word with
  | nil =>
      induction gap generalizing word with
      | nil => rfl
      | cons c gap ih =>
          have hc : isBlank c = true := hgap c List.mem_cons_self
          have ih := @ih fun d hd => hgap d (List.mem_cons_of_mem _ hd)
          simp only [List.nil_append, wordsFrom, hc, if_true] at ih ⊢
          simp only [ih, List.isEmpty_nil, if_true]
  | cons c s ih => simp only [List.cons_append, wordsFrom, ih]

/-- The words of a text are those of the text without the blanks around it. -/
theorem words_trimChars (s : List Char) : words (trimChars s) = words s := by
  have hback : ∀ t : List Char, words (trimBack t) = words t := by
    intro t
    have hblank : ∀ c ∈ t.rtakeWhile isBlank, isBlank c = true :=
      fun c hc => List.mem_rtakeWhile_imp hc
    have hsplit : trimBack t ++ t.rtakeWhile isBlank = t := List.rdropWhile_append_rtakeWhile
    rw [← congrArg words hsplit]
    exact (wordsFrom_append_blanks hblank [] _).symm
  have hblank : ∀ c ∈ s.takeWhile isBlank, isBlank c = true := fun c hc => List.mem_takeWhile_imp hc
  rw [trimChars, hback, ← words_blanks_append hblank]
  exact congrArg words List.takeWhile_append_dropWhile

/-- The first word stands behind blanks, and in front of a blank or at the end. -/
theorem words_cons {word : List Char} {others : List (List Char)} (h : words s = word :: others) :
    ∃ gap more, s = gap ++ (word ++ more) ∧ (∀ c ∈ gap, isBlank c = true) ∧
      more.head?.all isBlank = true := by
  have hgap : ∀ c ∈ s.takeWhile isBlank, isBlank c = true := fun c hc => List.mem_takeWhile_imp hc
  have hsplit : s.takeWhile isBlank ++ trimFront s = s := List.takeWhile_append_dropWhile
  rw [← hsplit, words_blanks_append hgap] at h
  generalize hfront : trimFront s = t at h hsplit
  cases t with
  | nil => cases h
  | cons c t =>
      have hc : isBlank c = false := by
        have hhead := List.head?_dropWhile_not isBlank s
        rw [show s.dropWhile isBlank = c :: t from hfront] at hhead
        exact hhead
      have hword : ∀ d ∈ (c :: t).takeWhile (!isBlank ·), isBlank d = false := fun d hd => by
        simpa using List.mem_takeWhile_imp hd
      have hmore : ((c :: t).dropWhile (!isBlank ·)).head?.all isBlank = true := by
        have hhead := List.head?_dropWhile_not (!isBlank ·) (c :: t)
        cases hdrop : ((c :: t).dropWhile (!isBlank ·)).head? with
        | none => rfl
        | some d => simpa [hdrop] using hhead
      have hpieces : (c :: t).takeWhile (!isBlank ·) ++ (c :: t).dropWhile (!isBlank ·) = c :: t :=
        List.takeWhile_append_dropWhile
      rw [← hpieces, words_append (by simp [hc]) hword hmore, List.cons.injEq] at h
      exact ⟨_, _, by rw [← h.1, hpieces, hsplit], hgap, hmore⟩

end JoinGraph.Text
