import JoinGraph.Pattern.Nesting

/-!
# Keywords

A keyword is found in any letter case, as a whole word, on the top level. A `Matcher` tells
whether it matches at the front of a text, and what is left then; `occurrences` are the places on
the top level where one matches.

## Main results

* `first?_eq_head?`: the first match is found without looking for the others.
-/

namespace JoinGraph.Pattern

/-! ## Matching at the front -/

/-- Matches at the front of a text, given the character before it. -/
abbrev Matcher := (before : Option Char) → List Char → Option (List Char)

/-- Takes a lower-case ASCII word off the front, in any letter case. -/
def afterWord? : (word : List Char) → List Char → Option (List Char)
  | [], s => some s
  | _ :: _, [] => none
  | w :: word, c :: rest => if Text.foldLower c = w then afterWord? word rest else none

/-- Takes one or more blanks off the front. -/
def afterBlanks? : List Char → Option (List Char)
  | [] => none
  | c :: rest => if Text.isBlank c then some (Text.trimFront rest) else none

/-- Whether no word goes on behind a text that ends with the character `before`. -/
def startsWord (before : Option Char) : Bool := !before.any Text.isWordPart

/-- Whether no word goes on at the front of a text. -/
def endsWord (rest : List Char) : Bool := !rest.head?.any Text.isWordPart

/-- Matches a whole word. -/
def wholeWord (word : String) : Matcher := fun before s =>
  if startsWord before then (afterWord? word.toList s).filter endsWord else none

/-- Matches a word at its beginning, and the blanks that have to follow it. -/
def wordAndBlanks (word : String) : Matcher := fun before s =>
  if startsWord before then (afterWord? word.toList s).bind afterBlanks? else none

/-- Matches the first of several words that matches. -/
def anyWord (words : List String) : Matcher := fun before s =>
  words.findSome? fun word => wholeWord word before s

/-- Matches one character. -/
def character (wanted : Char) : Matcher := fun _ s =>
  match s with
  | c :: rest => if c = wanted then some rest else none
  | [] => none

/-- Matches what either of two matchers matches. -/
def either (first second : Matcher) : Matcher := fun before s =>
  first before s <|> second before s

/-! ## Finding on the top level -/

/-- A match: the text before it and the text behind it. -/
structure Occurrence where
  before : List Char
  after : List Char

/-- The top-level matches in the rest of a text; `passed` is the text before it, reversed. -/
def occurrencesFrom (m : Matcher) (n : Nesting) (passed : List Char) :
    List Char → List Occurrence
  | [] => []
  | c :: rest =>
    let further := occurrencesFrom m (n.step c) (c :: passed) rest
    if n.isTop then
      match m passed.head? (c :: rest) with
      | some after => ⟨passed.reverse, after⟩ :: further
      | none => further
    else further

/-- The top-level matches in a text. -/
def occurrences (m : Matcher) (s : List Char) : List Occurrence := occurrencesFrom m .top [] s

/-- The first top-level match in the rest of a text. -/
def firstFrom? (m : Matcher) (n : Nesting) (passed : List Char) : List Char → Option Occurrence
  | [] => none
  | c :: rest =>
    match if n.isTop then m passed.head? (c :: rest) else none with
    | some after => some ⟨passed.reverse, after⟩
    | none => firstFrom? m (n.step c) (c :: passed) rest

/-- The first top-level match in a text. -/
def first? (m : Matcher) (s : List Char) : Option Occurrence := firstFrom? m .top [] s

theorem firstFrom?_eq_head? (m : Matcher) (n : Nesting) (passed s : List Char) :
    firstFrom? m n passed s = (occurrencesFrom m n passed s).head? := by
  induction s generalizing n passed with
  | nil => rfl
  | cons c rest ih =>
    simp only [firstFrom?, occurrencesFrom]
    by_cases hn : n.isTop
    · simp only [hn, if_true]
      cases m passed.head? (c :: rest) with
      | some after => rfl
      | none => exact ih _ _
    · simp only [hn, Bool.false_eq_true, if_false]
      exact ih _ _

/-- The first match is the first of all matches. -/
theorem first?_eq_head? (m : Matcher) (s : List Char) : first? m s = (occurrences m s).head? :=
  firstFrom?_eq_head? m .top [] s

/-- The text before the first top-level match, or the whole text. -/
def textBefore (m : Matcher) (s : List Char) : List Char :=
  match first? m s with
  | some found => found.before
  | none => s

/-! ## Conjunctions -/

/-- Whether blanks, `and` or `or`, and blanks stand at the front of a text. -/
def startsConjunction (s : List Char) : Bool :=
  match afterBlanks? s with
  | none => false
  | some rest =>
    ["and", "or"].any fun word => ((afterWord? word.toList rest).bind afterBlanks?).isSome

/-- The text before the first conjunction, wherever that stands. -/
def beforeConjunction : List Char → List Char
  | [] => []
  | c :: rest => if startsConjunction (c :: rest) then [] else c :: beforeConjunction rest

end JoinGraph.Pattern
