import JoinGraph.Text.Trim

/-!
# Nesting

A place in a statement is on the top level if it lies outside of all parentheses and quotes. The
level of a place is found by scanning the text before it (`Nesting.after`), one character at a
time, so the level after a longer text is found by scanning on from a shorter one
(`Nesting.after_append`).

## Main results

* `Nesting.after_append`: scanning two texts in a row.
* `isTopLevel_append`: behind a top-level place, levels are those of the text that follows.
* `joinParts_splitTop`: splitting at a separator loses nothing.
-/

namespace JoinGraph.Pattern

/-- Where a scan stands: how many parentheses are open, and which quote. -/
structure Nesting where
  depth : Nat
  quote : Option Char
  deriving DecidableEq, Repr

/-- Whether a character opens a quoted text, and closes it. -/
def isQuote (c : Char) : Bool := c == '\'' || c == '"' || c == '\x60'

namespace Nesting

/-- Outside of everything. -/
def top : Nesting := ⟨0, none⟩

/-- Whether the scan stands on the top level. -/
def isTop (n : Nesting) : Bool := n.depth == 0 && n.quote.isNone

/-- One character further. Parentheses count outside of quotes; a closing one too many is
ignored. -/
def step (n : Nesting) (c : Char) : Nesting :=
  match n.quote with
  | some opening => if c = opening then { n with quote := none } else n
  | none =>
    if isQuote c then { n with quote := some c }
    else if c = '(' then { n with depth := n.depth + 1 }
    else if c = ')' then { n with depth := n.depth - 1 }
    else n

/-- Where the scan stands after a text. -/
def after (n : Nesting) (s : List Char) : Nesting := s.foldl step n

theorem after_append (n : Nesting) (s t : List Char) : n.after (s ++ t) = (n.after s).after t := by
  simp [after]

theorem eq_top_of_isTop {n : Nesting} (h : n.isTop = true) : n = top := by
  obtain ⟨depth, quote⟩ := n
  simp only [isTop, Bool.and_eq_true, beq_iff_eq, Option.isNone_iff_eq_none] at h
  simp [top, h]

end Nesting

/-- Whether the place behind a text is on the top level. -/
def isTopLevel (s : List Char) : Bool := (Nesting.top.after s).isTop

theorem isTopLevel_append {s : List Char} (h : isTopLevel s = true) (t : List Char) :
    isTopLevel (s ++ t) = isTopLevel t := by
  simp only [isTopLevel, Nesting.after_append]
  rw [Nesting.eq_top_of_isTop h]

/-! ## Splitting -/

/-- Puts a character in front of the first part. -/
def consToFirst (c : Char) : List (List Char) → List (List Char)
  | [] => [[c]]
  | part :: parts => (c :: part) :: parts

/-- Cuts at the separators that are on the top level, scanning on from `n`. -/
def splitTopFrom (separator : Char) (n : Nesting) : List Char → List (List Char)
  | [] => [[]]
  | c :: rest =>
    if c = separator && n.isTop then [] :: splitTopFrom separator n rest
    else consToFirst c (splitTopFrom separator (n.step c) rest)

/-- Cuts at the separators that are on the top level. -/
def splitTop (separator : Char) (s : List Char) : List (List Char) :=
  splitTopFrom separator Nesting.top s

/-- The parts with the separator between neighbours. -/
def joinParts (separator : Char) : List (List Char) → List Char
  | [] => []
  | [part] => part
  | part :: parts => part ++ separator :: joinParts separator parts

theorem joinParts_consToFirst (separator c : Char) {parts : List (List Char)} (h : parts ≠ []) :
    joinParts separator (consToFirst c parts) = c :: joinParts separator parts := by
  match parts, h with
  | [part], _ => rfl
  | part :: next :: rest, _ => rfl

theorem consToFirst_ne_nil (c : Char) (parts : List (List Char)) : consToFirst c parts ≠ [] := by
  cases parts <;> simp [consToFirst]

theorem splitTopFrom_ne_nil (separator : Char) (n : Nesting) (s : List Char) :
    splitTopFrom separator n s ≠ [] := by
  cases s with
  | nil => simp [splitTopFrom]
  | cons c rest =>
    simp only [splitTopFrom]
    split
    · simp
    · exact consToFirst_ne_nil c _

theorem joinParts_splitTopFrom (separator : Char) (n : Nesting) (s : List Char) :
    joinParts separator (splitTopFrom separator n s) = s := by
  induction s generalizing n with
  | nil => rfl
  | cons c rest ih =>
    simp only [splitTopFrom]
    split
    · next h =>
      have hc : c = separator := by simp_all
      have hne := splitTopFrom_ne_nil separator n rest
      have ih := ih n
      revert ih hne
      cases splitTopFrom separator n rest with
      | nil => intro hne; exact absurd rfl hne
      | cons part parts => intro _ ih; simp [joinParts, ih, hc]
    · rw [joinParts_consToFirst separator c (splitTopFrom_ne_nil separator _ rest), ih]

/-- The parts give back the text. -/
theorem joinParts_splitTop (separator : Char) (s : List Char) :
    joinParts separator (splitTop separator s) = s :=
  joinParts_splitTopFrom separator Nesting.top s

end JoinGraph.Pattern
