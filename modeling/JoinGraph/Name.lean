import JoinGraph.Text.Trim

/-!
# Names

How identifiers and literals are undressed: a name may be wrapped in brackets, double quotes or
backquotes, a literal in quotes, and a word of the clause grammar names nothing when it stands bare.
-/

namespace JoinGraph.Name

/-- Words that end a table reference instead of naming or aliasing a table. -/
def clauseKeywords : List String :=
  ["as", "on", "using", "where", "join", "inner", "left", "right", "full", "cross", "outer",
    "natural", "group", "order", "limit", "having", "union", "window", "qualify", "lateral",
    "select", "from", "and", "or"]

/-- Whether a word is a clause keyword in any ASCII case. -/
def isClauseKeyword (word : String) : Bool := clauseKeywords.any (Text.equalFold · word)

/-- The characters that wrap a delimited identifier. -/
def isDelimiter (c : Char) : Bool := c == '[' || c == ']' || c == '"' || c == '\x60'

/-- A name without its delimiters, wherever they stand, and without the blanks around it. -/
def bareChars (name : List Char) : List Char :=
  Text.trimChars (name.filter fun c => !isDelimiter c)

@[inherit_doc bareChars]
def bare (name : String) : String := String.ofList (bareChars name.toList)

/-- Removes one pair of equal quotes around a text that has at least two characters. -/
def unwrapQuote? (quote : Char) (text : List Char) : Option (List Char) :=
  match text with
  | first :: rest =>
    if first = quote ∧ rest.getLast? = some quote then some rest.dropLast else none
  | [] => none

/-- A literal trimmed and without one pair of single quotes, or else of double quotes, around it. -/
def unquoteChars (literal : List Char) : List Char :=
  let trimmed := Text.trimChars literal
  (unwrapQuote? '\'' trimmed <|> unwrapQuote? '"' trimmed).getD trimmed

@[inherit_doc unquoteChars]
def unquote (literal : String) : String := String.ofList (unquoteChars literal.toList)

end JoinGraph.Name
