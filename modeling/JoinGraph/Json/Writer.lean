import JoinGraph.Json.Value

/-!
# Writing JSON

Two layouts: compact without any white space, and indented with one member or item a line, two
spaces a level. Text is written as it is, apart from quotes, backslashes and control characters.
-/

namespace JoinGraph.Json

/-- A hexadecimal digit in lower case. -/
def hexDigit (n : Nat) : Char := if n < 10 then Char.ofNat (48 + n) else Char.ofNat (87 + n)

/-- How a character stands inside a string. -/
def escapeChar (c : Char) : List Char :=
  if c = '"' then ['\\', '"']
  else if c = '\\' then ['\\', '\\']
  else if c.toNat = 8 then ['\\', 'b']
  else if c.toNat = 12 then ['\\', 'f']
  else if c = '\n' then ['\\', 'n']
  else if c = '\r' then ['\\', 'r']
  else if c = '\t' then ['\\', 't']
  else if c.toNat < 32 then
    ['\\', 'u', '0', '0', hexDigit (c.toNat / 16), hexDigit (c.toNat % 16)]
  else [c]

/-- A string with its quotes. -/
def quoteChars (s : List Char) : List Char := '"' :: s.flatMap escapeChar ++ ['"']

@[inherit_doc quoteChars]
def quote (s : String) : String := String.ofList (quoteChars s.toList)

/-- The texts with a comma between neighbours. -/
def separated (separator : String) : List String → String
  | [] => ""
  | [text] => text
  | text :: rest => text ++ separator ++ separated separator rest

mutual

/-- The compact text of a value. -/
def compact : Json → String
  | null => "null"
  | bool true => "true"
  | bool false => "false"
  | number n => n.text
  | string s => quote s
  | array items => "[" ++ separated "," (compactItems items) ++ "]"
  | object members => "\x7b" ++ separated "," (compactMembers members) ++ "\x7d"

/-- The compact texts of items. -/
def compactItems : List Json → List String
  | [] => []
  | item :: rest => compact item :: compactItems rest

/-- The compact texts of members. -/
def compactMembers : List (String × Json) → List String
  | [] => []
  | (key, value) :: rest => (quote key ++ ":" ++ compact value) :: compactMembers rest

end

/-- A line break and the indentation of a level. -/
def newLine (level : Nat) : String := String.ofList ('\n' :: List.replicate (2 * level) ' ')

mutual

/-- The indented text of a value that stands at a level. -/
def indented (level : Nat) : Json → String
  | null => "null"
  | bool true => "true"
  | bool false => "false"
  | number n => n.text
  | string s => quote s
  | array [] => "[]"
  | array (item :: rest) =>
    "[" ++ separated "," (indentedItems (level + 1) (item :: rest)) ++ newLine level ++ "]"
  | object [] => "\x7b\x7d"
  | object (m :: rest) =>
    "\x7b" ++ separated "," (indentedMembers (level + 1) (m :: rest)) ++ newLine level ++ "\x7d"

/-- The indented texts of items, each on a line of its own. -/
def indentedItems (level : Nat) : List Json → List String
  | [] => []
  | item :: rest => (newLine level ++ indented level item) :: indentedItems level rest

/-- The indented texts of members, each on a line of its own. -/
def indentedMembers (level : Nat) : List (String × Json) → List String
  | [] => []
  | (key, value) :: rest =>
    (newLine level ++ quote key ++ ": " ++ indented level value) :: indentedMembers level rest

end

/-- The indented text of a value. -/
def pretty (value : Json) : String := indented 0 value

end JoinGraph.Json
