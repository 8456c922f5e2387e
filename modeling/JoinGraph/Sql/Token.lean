import JoinGraph.Sql.Failure

/-!
# Tokens

The words, numbers, strings and signs of a statement. A word is a keyword where the grammar asks
for it and it is not delimited; nothing is a keyword by itself.
-/

namespace JoinGraph.Sql

/-- The forms of quoted strings. -/
inductive StringForm where
  | single | double | national | hexadecimal
  | singleBytes | doubleBytes
  | escaped | unicode
  | tripleSingle | tripleDouble
  | rawSingle | rawDouble | rawTripleSingle | rawTripleDouble
  | tripleSingleBytes | tripleDoubleBytes
  | dollar (tag : String)
  deriving DecidableEq, Repr

/-- A token. -/
inductive Token where
  /-- a word, with the character that opens its delimiters -/
  | word (text : String) (quote : Option Char)
  | number (digits : String) (isLong : Bool)
  | string (form : StringForm) (text : String)
  | placeholder (text : String)
  /-- an operator or a sign of punctuation -/
  | sign (text : String)
  deriving DecidableEq, Repr

/-- A token, where it stands, and whether blanks stand before it. -/
structure Lexeme where
  token : Token
  place : Position
  isSpaced : Bool
  deriving Repr

/-! ## Keywords -/

/-- The capitals of a character, as far as keywords are concerned. -/
def capitals (c : Char) : List Char :=
  if 97 ≤ c.toNat && c.toNat ≤ 122 then [Char.ofNat (c.toNat - 32)]
  else match c.toNat with
    | 0xDF => ['S', 'S']
    | 0x131 => ['I']
    | 0x17F => ['S']
    | 0xFB00 => ['F', 'F']
    | 0xFB01 => ['F', 'I']
    | 0xFB02 => ['F', 'L']
    | 0xFB03 => ['F', 'F', 'I']
    | 0xFB04 => ['F', 'F', 'L']
    | 0xFB05 => ['S', 'T']
    | 0xFB06 => ['S', 'T']
    | _ => [c]

/-- A word in capitals. -/
def inCapitals (word : String) : String := String.ofList (word.toList.flatMap capitals)

/-- The keyword that a token may be: the capitals of a word without delimiters. -/
def Token.keyword : Token → String
  | word text none => inCapitals text
  | _ => ""

/-! ## Signs -/

/-- The signs that all dialects know. -/
def knownSigns : List String :=
  ["->>", "->", "||/", "|/", "||", "=>", "==", "!~~*", "!~~", "!~*", "!~", "!!", "<=>", "<=", "<<",
    "<>", "<@", ">=", ">>", "::", ":=", "&&", "^@", "#>>", "#>", "#-", "~~*", "~~", "~*", "@>",
    "@?", "@@", "(", ")", ",", "-", "/", "+", "*", "%", "|", "=", "!", "<", ">", ":", ";", "\\",
    "[", "]", "&", "^", "\x7b", "\x7d", "#", "~", "@"]

/-- The signs between two geometric values. -/
def geometricSigns : List String :=
  ["##", "<->", "&<", "&>", "<<|", "|>>", "&<|", "|&>", "<^", ">^", "?#", "?-", "?-|", "?||", "~="]

/-- Signs that only begin others, where geometric values are known. -/
def brokenSigns : List String := ["<-", "|&", "|>", "@-"]

/-- Whether a character may be part of an operator that only its dialect knows. -/
def isOperatorCharacter (c : Char) : Bool := "+-*/<>=~!@#%^&|\x60?".toList.contains c

/-- Whether a text may be an operator that only its dialect knows. -/
def isOperatorText (text : String) : Bool := text.toList.all isOperatorCharacter

/-! ## Text -/

/--
Writes the quote twice wherever it stands alone in a text. One that stands behind a backslash or
before another quote is taken to be escaped already. `backslash` tells that one was the last
character.
-/
def escapeQuotes (quote : Char) (backslash : Bool) : List Char → List Char
  | [] => []
  | c :: rest =>
    if c = quote then
      if backslash then c :: escapeQuotes quote true rest
      else
        match rest with
        | next :: rest' =>
          if next = quote then c :: next :: escapeQuotes quote false rest'
          else c :: c :: escapeQuotes quote false (next :: rest')
        | [] => [c, c]
    else c :: escapeQuotes quote (c = '\\') rest
termination_by s => s.length

/-- A text in quotes, with the quotes inside of it escaped. -/
def quoted (quote : Char) (text : String) : String :=
  String.ofList (quote :: escapeQuotes quote false text.toList ++ [quote])

/-- How a string with escapes is written. -/
def escapedText (text : String) : String :=
  String.ofList (text.toList.flatMap fun c =>
    if c = '\'' then ['\\', '\'']
    else if c = '\\' then ['\\', '\\']
    else if c = '\n' then ['\\', 'n']
    else if c = '\t' then ['\\', 't']
    else if c = '\x0d' then ['\\', 'r']
    else [c])

/-- A number in base sixteen with capitals, padded with zeros. -/
def hexText (width n : Nat) : List Char :=
  let digits := (Nat.toDigits 16 n).flatMap capitals
  List.replicate (width - digits.length) '0' ++ digits

/-- How a string of code points is written. -/
def unicodeText (text : String) : String :=
  String.ofList (text.toList.flatMap fun c =>
    if c = '\'' then ['\'', '\'']
    else if c = '\\' then ['\\', '\\']
    else if c.toNat < 128 then [c]
    else if c.toNat ≤ 0xFFFF then '\\' :: hexText 4 c.toNat
    else '\\' :: '+' :: hexText 6 c.toNat)

/-- A string as it is written in its form. -/
def StringForm.write (form : StringForm) (text : String) : String :=
  match form with
  | single => quoted '\'' text
  | double => quoted '"' text
  | national => "N'" ++ text ++ "'"
  | hexadecimal => "X'" ++ text ++ "'"
  | singleBytes => "B'" ++ text ++ "'"
  | doubleBytes => "B\"" ++ text ++ "\""
  | escaped => "E'" ++ escapedText text ++ "'"
  | unicode => "U&'" ++ unicodeText text ++ "'"
  | tripleSingle => "'''" ++ text ++ "'''"
  | tripleDouble => "\"\"\"" ++ text ++ "\"\"\""
  | rawSingle => "R'" ++ text ++ "'"
  | rawDouble => "R\"" ++ text ++ "\""
  | rawTripleSingle => "R'''" ++ text ++ "'''"
  | rawTripleDouble => "R\"\"\"" ++ text ++ "\"\"\""
  | tripleSingleBytes => "B'''" ++ text ++ "'''"
  | tripleDoubleBytes => "B\"\"\"" ++ text ++ "\"\"\""
  | dollar tag => "$" ++ tag ++ "$" ++ text ++ "$" ++ tag ++ "$"

/-- A delimited word as it is written. -/
def delimited (quote : Char) (text : String) : String :=
  if quote = '[' then "[" ++ text ++ "]" else quoted quote text

/-- A token as a complaint shows it. -/
def Token.text : Token → String
  | word text none => text
  | word text (some quote) =>
    String.ofList [quote] ++ text ++ String.ofList [if quote = '[' then ']' else quote]
  | number digits isLong => if isLong then digits ++ "L" else digits
  | string .single text => "'" ++ text ++ "'"
  | string .double text => "\"" ++ text ++ "\""
  | string form text => form.write text
  | placeholder text => text
  | sign text => text

/-- The end of a complaint: the place it is about. -/
def Position.suffix (p : Position) : String :=
  " at Line: " ++ String.ofList (Nat.toDigits 10 p.line) ++ ", Column: "
    ++ String.ofList (Nat.toDigits 10 p.column)

end JoinGraph.Sql
