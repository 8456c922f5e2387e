import JoinGraph.Sql.Syntax

/-!
# Reading tokens

A `Parse` takes tokens from the front of a list and yields a value, or complains about the token
that may not stand where it stands. Some statements can only be told apart by trying: `maybe`
undoes what a failed attempt has taken.
-/

namespace JoinGraph.Sql

/-- Why a statement was not read. -/
inductive Complaint where
  /-- a sentence, with the place it is about -/
  | about (sentence : String)
  /-- the statement is nested too deeply -/
  | tooDeep

/-- A reader of tokens. -/
abbrev Parse := StateT (List Lexeme) (Except Complaint)

/-- The text of the end of a statement in a complaint. -/
def endText : String := "EOF"

namespace Parse

/-! ## Looking ahead -/

/-- The token that is `n` tokens away. -/
def ahead? (n : Nat) (tokens : List Lexeme) : Option Token := tokens[n]?.map (·.token)

/-- The keyword that the token `n` tokens away may be. -/
def keywordAt (n : Nat) (tokens : List Lexeme) : String :=
  ((ahead? n tokens).map Token.keyword).getD ""

/-- The next token. -/
def peek? : Parse (Option Token) := return ahead? 0 (← get)

/-- Whether the token that is `n` tokens away is a sign. -/
def signAhead (n : Nat) (text : String) : Parse Bool := return ahead? n (← get) == some (.sign text)

/-- Whether the next token is a sign. -/
def isSign (text : String) : Parse Bool := signAhead 0 text

/-- Whether the next token is one of some keywords. -/
def isOneOf (words : List String) : Parse Bool := return words.contains (keywordAt 0 (← get))

/-- Whether the next token is a word. -/
def isWord : Parse Bool := do
  match ← peek? with
  | some (.word ..) => return true
  | _ => return false

/-- Whether the next token is a keyword. -/
def isKeyword (word : String) : Parse Bool := return keywordAt 0 (← get) == word

/-! ## Complaining -/

/-- Complains with a sentence about the place of the next token. -/
def complain {α : Type} (sentence : String) : Parse α := fun tokens =>
  .error (.about (sentence ++ ((tokens.head?.map (·.place.suffix)).getD "")))

/-- Complains with a sentence about no place. -/
def complainPlainly {α : Type} (sentence : String) : Parse α := fun _ => .error (.about sentence)

/-- Complains about the next token. -/
def expected {α : Type} (what : String) : Parse α := do
  let found := ((← peek?).map Token.text).getD endText
  complain ("Expected: " ++ what ++ ", found: " ++ found)

/-! ## Taking tokens -/

/-- Drops a token. -/
def advance : Parse Unit := modify List.tail

/-- Takes a sign if it is next. -/
def takeSign (text : String) : Parse Bool := do
  if ← isSign text then
    advance
    return true
  else return false

/-- Takes one of some keywords if it is next. -/
def takeOneOf (words : List String) : Parse (Option String) := do
  let word := keywordAt 0 (← get)
  if words.contains word then
    advance
    return some word
  else return none

/-- Takes a keyword if it is next. -/
def takeKeyword (word : String) : Parse Bool := return (← takeOneOf [word]).isSome

/-- Whether the tokens begin with some keywords. -/
def beginWith (words : List String) (tokens : List Lexeme) : Bool :=
  words == (tokens.take words.length).map (·.token.keyword)

/-- Takes all of some keywords or none. -/
def takeKeywords (words : List String) : Parse Bool := do
  if beginWith words (← get) then
    modify (List.drop words.length)
    return true
  else return false

/-- Takes a sign. -/
def expectSign (text : String) : Parse Unit := do
  unless ← takeSign text do expected text

/-- Takes a keyword. -/
def expectKeyword (word : String) : Parse Unit := do
  unless ← takeKeyword word do expected word

/-- Takes some keywords in a row. -/
def expectKeywords (words : List String) : Parse Unit := words.forM expectKeyword

/-- Takes one of some keywords. -/
def expectOneOf (words : List String) : Parse String := do
  match ← takeOneOf words with
  | some word => return word
  | none => expected ("one of " ++ " or ".intercalate words)

/-- Takes something only under a condition; otherwise nothing is taken. -/
def onlyIf (condition : Bool) (p : Parse Bool) : Parse Bool := if condition then p else return false

/-- Takes one thing, or else another one. -/
def eitherOf (first second : Parse Bool) : Parse Bool := do
  if ← first then return true else second

/-! ## Trying and repeating -/

/-- Tries a reader; on a complaint nothing is taken. -/
def attempt {α : Type} (p : Parse α) : Parse (Except Complaint α) := fun tokens =>
  match p tokens with
  | .ok (a, rest) => .ok (.ok a, rest)
  | .error complaint => .ok (.error complaint, tokens)

/-- Tries a reader; a statement that is nested too deeply is not tried any further. -/
def maybe {α : Type} (p : Parse α) : Parse (Option α) := do
  match ← attempt p with
  | .ok a => return some a
  | .error (.about _) => return none
  | .error .tooDeep => throw .tooDeep

/-- Repeats a step as long as it yields a value, at most `fuel` times. -/
def repeatWithin {α : Type} (step : α → Parse (Option α)) : (fuel : Nat) → α → Parse α
  | 0, a => return a
  | fuel + 1, a => do
    match ← step a with
    | some a => repeatWithin step fuel a
    | none => return a

/-- Repeats a step that takes tokens whenever it yields a value. -/
def repeatFrom {α : Type} (a : α) (step : α → Parse (Option α)) : Parse α := do
  repeatWithin step ((← get).length + 1) a

/-- Reads a list of at least one entry; `isEnd` tells behind an entry whether the list ends. -/
def listUntil {α : Type} (isEnd : Parse Bool) (entry : Parse α) : Parse (List α) := do
  let first ← entry
  let entries ← repeatFrom [first] fun taken => do
    if ← isEnd then return none else return some ((← entry) :: taken)
  return entries.reverse

/-- Whether no comma follows; otherwise takes it. -/
def noComma : Parse Bool := return !(← takeSign ",")

/-- Reads something in parentheses. -/
def parenthesized {α : Type} (p : Parse α) : Parse α := do
  expectSign "("
  let a ← p
  expectSign ")"
  return a

/-- Drops tokens up to the parenthesis that closes `depth + 1` open ones, and it too. -/
def skipWithin (depth : Nat) : List Lexeme → Option (List Lexeme)
  | [] => none
  | t :: rest =>
    if t.token = .sign "(" then skipWithin (depth + 1) rest
    else if t.token = .sign ")" then
      match depth with
      | 0 => some rest
      | depth + 1 => skipWithin depth rest
    else skipWithin depth rest

/-- Takes what stands in parentheses as it stands, and yields its tokens as text. -/
def balanced : Parse String := do
  expectSign "("
  let tokens ← get
  match skipWithin 0 tokens with
  | some rest =>
    set rest
    let taken := tokens.take (tokens.length - rest.length - 1)
    return inParentheses (" ".intercalate (taken.map (·.token.text)))
  | none => fun _ => expected ")" []

/-- Drops the tokens up to the end of a statement or to a parenthesis that is not opened among
them. -/
def statementEnd (depth : Nat) : List Lexeme → List Lexeme
  | [] => []
  | t :: rest =>
    if t.token = .sign "(" then statementEnd (depth + 1) rest
    else if depth = 0 && (t.token = .sign ")" || t.token = .sign ";") then t :: rest
    else statementEnd (if t.token = .sign ")" then depth - 1 else depth) rest

/-- Takes the rest of a statement as it stands, and yields its tokens as text. -/
def statementRest : Parse String := do
  let tokens ← get
  let rest := statementEnd 0 tokens
  set rest
  return " ".intercalate ((tokens.take (tokens.length - rest.length)).map (·.token.text))

/-! ## Names -/

/-- The name that a token stands for, if it stands for one. -/
def nameOf? : Token → Option Ident
  | .word text quote? => some ⟨text, quote?⟩
  | .string .single text => some ⟨text, some '\''⟩
  | .string .double text => some ⟨text, some '"'⟩
  | _ => none

/-- Reads a name. -/
def ident : Parse Ident := do
  match (← peek?).bind nameOf? with
  | some name =>
    advance
    return name
  | none => expected "identifier"

end Parse

end JoinGraph.Sql
