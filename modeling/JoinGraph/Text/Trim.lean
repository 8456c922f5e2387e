import JoinGraph.Text.Character

/-!
# Trimming, splitting and comparing text

Text is scanned as a list of characters and kept as a `String`. The functions on lists carry the
lemmas; the functions on strings wrap them.

## Main results

* `trimChars_trimChars`: trimming twice is trimming once.
* `splitChars_ne_nil`: splitting always yields a part.
-/

namespace JoinGraph.Text

/-! ## Trimming -/

/-- Drops the blanks at the front. -/
def trimFront (s : List Char) : List Char := s.dropWhile isBlank

/-- Drops the blanks at the back. -/
def trimBack (s : List Char) : List Char := (s.reverse.dropWhile isBlank).reverse

/-- Drops the blanks on both sides. -/
def trimChars (s : List Char) : List Char := trimBack (trimFront s)

private theorem dropWhile_dropWhile (p : Char → Bool) (s : List Char) :
    (s.dropWhile p).dropWhile p = s.dropWhile p := by
  induction s with
  | nil => rfl
  | cons c rest ih => by_cases h : p c <;> simp [h, ih]

theorem trimFront_trimFront (s : List Char) : trimFront (trimFront s) = trimFront s :=
  dropWhile_dropWhile isBlank s

theorem trimBack_trimBack (s : List Char) : trimBack (trimBack s) = trimBack s := by
  simp [trimBack, dropWhile_dropWhile]

private theorem trimBack_cons (c : Char) (s : List Char) :
    trimBack (c :: s) =
      if trimBack s = [] then (if isBlank c then [] else [c]) else c :: trimBack s := by
  simp only [trimBack, List.reverse_cons, List.dropWhile_append, List.reverse_eq_nil_iff]
  by_cases h : s.reverse.dropWhile isBlank = []
  · by_cases hc : isBlank c <;> simp [h, hc]
  · simp [h]

private theorem trimFront_cons_of_not_blank {c : Char} (h : isBlank c = false) (s : List Char) :
    trimFront (c :: s) = c :: s := by
  simp [trimFront, h]

private theorem trimFront_trimBack_of_fixed {s : List Char} (h : trimFront s = s) :
    trimFront (trimBack s) = trimBack s := by
  cases s with
  | nil => rfl
  | cons c rest =>
    have hc : isBlank c = false := by
      cases hb : isBlank c with
      | false => rfl
      | true =>
        have hlen := congrArg List.length h
        have hle := (List.dropWhile_suffix isBlank (l := rest)).length_le
        simp only [trimFront, List.dropWhile_cons, hb, if_true, List.length_cons] at hlen
        omega
    rw [trimBack_cons]
    by_cases hr : trimBack rest = []
    · simp [hr, hc, trimFront]
    · simp [hr, trimFront_cons_of_not_blank hc]

/-- Trimming leaves nothing to trim. -/
theorem trimChars_trimChars (s : List Char) : trimChars (trimChars s) = trimChars s := by
  unfold trimChars
  rw [trimFront_trimBack_of_fixed (trimFront_trimFront s), trimBack_trimBack]

/-- The text without the blanks around it. -/
def trim (s : String) : String := String.ofList (trimChars s.toList)

/-- A text of blanks only, the empty text included. -/
def isBlankText (s : String) : Bool := s.toList.all isBlank

/-- The trimmed text, or nothing if only blanks were there. -/
def nonBlank? (s : String) : Option String :=
  let trimmed := trim s
  if trimmed.isEmpty then none else some trimmed

/-! ## Splitting -/

/-- Cuts at every occurrence of `separator`, which is dropped. -/
def splitChars (separator : Char) : List Char → List (List Char)
  | [] => [[]]
  | c :: rest =>
    if c = separator then [] :: splitChars separator rest
    else
      match splitChars separator rest with
      | [] => [[c]]
      | part :: parts => (c :: part) :: parts

theorem splitChars_ne_nil (separator : Char) (s : List Char) : splitChars separator s ≠ [] := by
  cases s with
  | nil => simp [splitChars]
  | cons c rest =>
    by_cases h : c = separator
    · simp [splitChars, h]
    · simp only [splitChars, h, if_false]
      split <;> simp

/-- Nothing is cut without the separator. -/
theorem splitChars_of_not_mem {separator : Char} {s : List Char} (h : separator ∉ s) :
    splitChars separator s = [s] := by
  induction s with
  | nil => rfl
  | cons c s ih =>
    have hc : c ≠ separator := fun hc => h (hc ▸ List.mem_cons_self)
    rw [splitChars, if_neg hc, ih fun hmem => h (List.mem_cons_of_mem _ hmem)]

/-- The first part ends at the first separator. -/
theorem splitChars_append {separator : Char} {s : List Char} (h : separator ∉ s)
    (rest : List Char) :
    splitChars separator (s ++ separator :: rest) = s :: splitChars separator rest := by
  induction s with
  | nil => simp [splitChars]
  | cons c s ih =>
    have hc : c ≠ separator := fun hc => h (hc ▸ List.mem_cons_self)
    rw [List.cons_append, splitChars, if_neg hc, ih fun hmem => h (List.mem_cons_of_mem _ hmem)]

/-- The longest blank-free pieces of a text, in order. `word` collects the current piece. -/
def wordsFrom (word : List Char) : List Char → List (List Char)
  | [] => if word.isEmpty then [] else [word.reverse]
  | c :: rest =>
    if isBlank c then
      if word.isEmpty then wordsFrom [] rest else word.reverse :: wordsFrom [] rest
    else wordsFrom (c :: word) rest

/-- The blank-free words of a text, in order. -/
def words (s : List Char) : List (List Char) := wordsFrom [] s

/-- Splits before and after the first occurrence of `separator`, which is dropped. -/
def splitOnce? (separator : Char) (s : List Char) : Option (List Char × List Char) :=
  match s.dropWhile (· ≠ separator) with
  | [] => none
  | _ :: rest => some (s.takeWhile (· ≠ separator), rest)

theorem splitOnce?_append {separator : Char} {s : List Char} (h : separator ∉ s)
    (rest : List Char) :
    splitOnce? separator (s ++ separator :: rest) = some (s, rest) := by
  have hne : ∀ c ∈ s, decide (c ≠ separator) = true := fun c hc => by
    simpa using fun heq : c = separator => h (heq ▸ hc)
  rw [splitOnce?, List.dropWhile_append_of_pos hne, List.takeWhile_append_of_pos hne]
  simp

/-- What stands before the first separator is told from what stands behind it. -/
theorem append_separator_inj {separator : Char} {s s' rest rest' : List Char} (h : separator ∉ s)
    (h' : separator ∉ s') (heq : s ++ separator :: rest = s' ++ separator :: rest') :
    s = s' ∧ rest = rest' := by
  have hsplit := congrArg (splitOnce? separator) heq
  rw [splitOnce?_append h, splitOnce?_append h'] at hsplit
  exact Prod.mk.inj (Option.some.inj hsplit)

/-! ## Comparing -/

/-- Lower case for the ASCII letters of a text. -/
def lowerAscii (s : String) : String := String.ofList (s.toList.map asciiLower)

/-- Equality up to the case of ASCII letters. -/
def equalFold (a b : String) : Bool := a.toList.map asciiLower == b.toList.map asciiLower

/-- Whether `piece` stands somewhere in `s`. -/
def contains (piece : List Char) : List Char → Bool
  | [] => piece.isEmpty
  | c :: rest => piece.isPrefixOf (c :: rest) || contains piece rest

end JoinGraph.Text
