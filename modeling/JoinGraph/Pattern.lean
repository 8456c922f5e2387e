import JoinGraph.Pattern.Clause
import JoinGraph.Pattern.Comment

/-!
# Reading statements by pattern

Where the grammar gives up, a statement is read by its keywords alone. `Pattern.read` takes any
text; in one that makes no sense it finds nothing.
-/

namespace JoinGraph.Pattern

/-- A text without comments, without blanks around it and without semicolons at the end. -/
def prepare (sql : List Char) : List Char :=
  let text := Text.trimChars (withoutComments sql)
  Text.trimBack (text.reverse.dropWhile (· = ';')).reverse

/-- What is found in the characters of a statement. -/
def readChars (sql : List Char) : Shape.Flat.Select :=
  let text := prepare sql
  ⟨columns text, tables text, joins text, condition? text⟩

/-- What is found in a statement. -/
def read (sql : String) : Shape.Flat.Select := readChars sql.toList

end JoinGraph.Pattern
