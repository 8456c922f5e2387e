import JoinGraph.Pattern.Nesting

/-!
# Comments

A comment counts as a space. It starts with two hyphens and ends before the line break, or stands
between `/*` and `*/`, or goes on to the end of the text; inside of quotes there are no comments.
-/

namespace JoinGraph.Pattern

/-- What follows the first `*/`, or nothing. -/
def afterBlock : List Char → List Char
  | '*' :: '/' :: rest => rest
  | _ :: rest => afterBlock rest
  | [] => []

theorem length_afterBlock_le (s : List Char) : (afterBlock s).length ≤ s.length := by
  fun_induction afterBlock s with
  | case1 => simp; omega
  | case2 _ _ _ ih => simp; omega
  | case3 => simp

/-- What follows a line comment: the line break and all behind it. -/
def afterLine (s : List Char) : List Char := s.dropWhile (· ≠ '\n')

theorem length_afterLine_le (s : List Char) : (afterLine s).length ≤ s.length :=
  (List.dropWhile_suffix _).length_le

/-- Replaces comments by spaces, inside of the quote `quote` or outside of quotes. -/
def withoutCommentsFrom (quote : Option Char) (s : List Char) : List Char :=
  match quote, s with
  | _, [] => []
  | some opening, c :: rest =>
    c :: withoutCommentsFrom (if c = opening then none else some opening) rest
  | none, '-' :: '-' :: rest => ' ' :: withoutCommentsFrom none (afterLine rest)
  | none, '/' :: '*' :: rest => ' ' :: withoutCommentsFrom none (afterBlock rest)
  | none, c :: rest => c :: withoutCommentsFrom (if isQuote c then some c else none) rest
termination_by s.length
decreasing_by
  all_goals simp only [List.length_cons]
  · omega
  · have := length_afterLine_le rest; omega
  · have := length_afterBlock_le rest; omega
  · omega

/-- The text with a space in place of each comment. -/
def withoutComments (s : List Char) : List Char := withoutCommentsFrom none s

end JoinGraph.Pattern
