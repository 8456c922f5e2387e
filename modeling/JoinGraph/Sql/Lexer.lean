import JoinGraph.Sql.Token

/-!
# Cutting a statement into tokens

`Lexer.tokens` cuts a whole text into tokens, or says why that is not possible: a string, a
delimited word or a comment that is not closed. Blanks and comments only separate tokens. A
`Remainder` is the rest of a text and its place; every reader takes at least one character from
it.
-/

namespace JoinGraph.Sql

/-- The rest of a text and its place. -/
structure Remainder where
  rest : List Char
  place : Position

namespace Remainder

/-- The place behind a character. -/
def placeAfter (p : Position) (c : Char) : Position :=
  if c = '\n' then ⟨p.line + 1, 1⟩ else ⟨p.line, p.column + 1⟩

/-- Drops a character. -/
def next (s : Remainder) : Remainder :=
  match s.rest with
  | [] => s
  | c :: rest => ⟨rest, placeAfter s.place c⟩

/-- Drops some characters. -/
def drop : Nat → Remainder → Remainder
  | 0, s => s
  | n + 1, s => drop n s.next

/-- Takes characters as long as `p` holds of them and of what follows. -/
def takeFrom (p : Char → List Char → Bool) (place : Position) : List Char → List Char × Remainder
  | [] => ([], ⟨[], place⟩)
  | c :: rest =>
    if p c rest then
      let (taken, s) := takeFrom p (placeAfter place c) rest
      (c :: taken, s)
    else ([], ⟨c :: rest, place⟩)

/-- Takes the longest text of which all characters fulfil `p`. -/
def takeWhile (p : Char → Bool) (s : Remainder) : List Char × Remainder :=
  takeFrom (fun c _ => p c) s.place s.rest

/-- The next character. -/
def head? (s : Remainder) : Option Char := s.rest.head?

/-- The character behind the next one. -/
def second? (s : Remainder) : Option Char := s.rest.tail.head?

end Remainder

namespace Lexer

/-- What a reader of tokens yields: a token or none, and the rest, or a complaint. -/
abbrev Scan := Except String (Option Token × Remainder)

/-- A complaint about a place. -/
def complain {α : Type} (message : String) (place : Position) : Except String α :=
  .error (message ++ place.suffix)

/-- Takes `length` characters as a sign. -/
def takeSign (text : String) (length : Nat) (s : Remainder) : Scan :=
  .ok (some (.sign text), s.drop length)

/-! ## Comments -/

/-- Drops a comment up to its end; `opened` counts the comments that are open around it. -/
def blockComment (nests : Bool) (place : Position) :
    (opened : Nat) → List Char → Except String Remainder
  | _, [] => complain "Unexpected EOF while in a multi-line comment" place
  | opened, '*' :: '/' :: rest =>
    let place := ⟨place.line, place.column + 2⟩
    match opened with
    | 0 => .ok ⟨rest, place⟩
    | opened + 1 => blockComment nests place opened rest
  | opened, '/' :: '*' :: rest =>
    let place := ⟨place.line, place.column + 2⟩
    blockComment nests place (if nests then opened + 1 else opened) rest
  | opened, c :: rest => blockComment nests (Remainder.placeAfter place c) opened rest

/-- Drops the rest of a line, without its end. -/
def lineComment (s : Remainder) : Scan :=
  .ok (none, (s.takeWhile fun c => c ≠ '\n').2)

/-! ## Strings -/

/-- The character that a letter stands for behind a backslash. -/
def unescaped : Char → Char
  | '0' => '\x00'
  | 'a' => '\x07'
  | 'b' => '\x08'
  | 'f' => '\x0c'
  | 'n' => '\n'
  | 'r' => '\x0d'
  | 't' => '\t'
  | 'Z' => '\x1a'
  | c => c

/-- How a quoted text is read. -/
structure Quoting where
  quote : Char
  /-- three quotes open and close the text -/
  isTriple : Bool
  /-- a backslash escapes -/
  escapes : Bool
  /-- a backslash before `%` or `_` is kept -/
  keepsWildcards : Bool

/-- Reads a quoted text up to its closing quote. -/
def quotedTail (q : Quoting) (place : Position) : List Char → Option (List Char × Remainder)
  | [] => none
  | c :: rest =>
    let behind := Remainder.placeAfter place c
    if c = q.quote then
      if q.isTriple then
        if rest.take 2 = [c, c] then some ([], ⟨rest.drop 2, ⟨place.line, place.column + 3⟩⟩)
        else (quotedTail q behind rest).map fun r => (c :: r.1, r.2)
      else
        match rest with
        | next :: rest' =>
          if next = c then
            (quotedTail q (Remainder.placeAfter behind c) rest').map fun r => (c :: r.1, r.2)
          else some ([], ⟨next :: rest', behind⟩)
        | [] => some ([], ⟨[], behind⟩)
    else if c = '\\' && q.escapes then
      match rest with
      | [] => none
      | next :: rest' =>
        let place := Remainder.placeAfter behind next
        if q.keepsWildcards && (next = '%' || next = '_') then
          (quotedTail q place rest').map fun r => (c :: next :: r.1, r.2)
        else (quotedTail q place rest').map fun r => (unescaped next :: r.1, r.2)
    else (quotedTail q behind rest).map fun r => (c :: r.1, r.2)
termination_by structural s => s

/-- Whether a text begins with three quotes. -/
def beginsTriple (quote : Char) : List Char → Bool
  | a :: b :: c :: _ => a = quote && b = quote && c = quote
  | _ => false

/-- Reads a quoted text from its opening quote on. -/
def quotedText (q : Quoting) (s : Remainder) : Except String (String × Remainder) :=
  match quotedTail q (s.drop (if q.isTriple then 3 else 1)).place
      (s.drop (if q.isTriple then 3 else 1)).rest with
  | some (text, s) => .ok (String.ofList text, s)
  | none => complain "Unterminated string literal" s.place

/-- Reads a string of one quote, or of three if the dialect knows those. -/
def stringOf (d : Dialect) (escapes : Bool) (form tripleForm : StringForm) (s : Remainder) :
    Scan := do
  let quote := s.head?.getD '\''
  let isTriple := d.tripleQuotes && beginsTriple quote s.rest
  let (text, s) ← quotedText ⟨quote, isTriple, escapes, d.keepsWildcardEscapes⟩ s
  return (some (.string (if isTriple then tripleForm else form) text), s)

/-- Reads digits of base `base` after a backslash. -/
def codeDigits (base most : Nat) (s : Remainder) : List Char × Remainder :=
  let isDigit (c : Char) : Bool :=
    let n := c.toNat
    (48 ≤ n && n < 48 + min base 10) || (base = 16 && ((65 ≤ n && n ≤ 70) || (97 ≤ n && n ≤ 102)))
  let taken := (s.rest.take most).takeWhile isDigit
  (taken, s.drop taken.length)

/-- The number that digits of a base make. -/
def codeValue (base : Nat) (digits : List Char) : Nat :=
  digits.foldl (fun n c =>
    let d := c.toNat
    base * n + (if d ≤ 57 then d - 48 else if d ≤ 70 then d - 55 else d - 87)) 0

/-- The character of a code point, if there is one. -/
def charOfCode? (n : Nat) : Option Char :=
  if n < 0xD800 || (0xE000 ≤ n && n < 0x110000) then some (Char.ofNat n) else none

/-- Reads one escape of a string with escapes, behind the backslash. -/
def escapeAt? (s : Remainder) : Option (Char × Remainder) :=
  match s.head? with
  | none => none
  | some c =>
    let behind := s.next
    let coded (base most : Nat) (s : Remainder) : Option (Char × Remainder) :=
      let (digits, rest) := codeDigits base most s
      match charOfCode? (codeValue base digits) with
      | some c => if c.toNat = 0 then none else some (c, rest)
      | none => none
    match c with
    | 'b' => some ('\x08', behind)
    | 'f' => some ('\x0c', behind)
    | 'n' => some ('\n', behind)
    | 'r' => some ('\x0d', behind)
    | 't' => some ('\t', behind)
    | 'u' => if (codeDigits 16 4 behind).1.length = 4 then coded 16 4 behind else none
    | 'U' => if (codeDigits 16 8 behind).1.length = 8 then coded 16 8 behind else none
    | 'x' =>
      if (codeDigits 16 2 behind).1.isEmpty then some ('x', behind)
      else
        let (digits, rest) := codeDigits 16 2 behind
        let n := codeValue 16 digits % 128
        if n = 0 then none else some (Char.ofNat n, rest)
    | c =>
      if '0' ≤ c && c ≤ '7' then
        let (digits, rest) := codeDigits 8 3 s
        let n := codeValue 8 digits % 128
        if n = 0 then none else some (Char.ofNat n, rest)
      else some (c, behind)

/-- Reads a string with escapes behind its opening quote. `fuel` bounds its characters. -/
def escapedTail : (fuel : Nat) → (taken : List Char) → Remainder → Option (String × Remainder)
  | 0, _, _ => none
  | fuel + 1, taken, s =>
    match s.head? with
    | none => none
    | some '\'' =>
      if s.second? = some '\'' then escapedTail fuel ('\'' :: taken) (s.drop 2)
      else some (String.ofList taken.reverse, s.next)
    | some '\\' =>
      match escapeAt? s.next with
      | some (c, s) => escapedTail fuel (c :: taken) s
      | none => none
    | some c => escapedTail fuel (c :: taken) s.next

/-- Reads a string of code points behind its opening quote. `fuel` bounds its characters. -/
def unicodeTail : (fuel : Nat) → (taken : List Char) → Remainder → Option (String × Remainder)
  | 0, _, _ => none
  | fuel + 1, taken, s =>
    match s.head? with
    | none => none
    | some '\'' =>
      if s.second? = some '\'' then unicodeTail fuel ('\'' :: taken) (s.drop 2)
      else some (String.ofList taken.reverse, s.next)
    | some '\\' =>
      let digits (most : Nat) (s : Remainder) : Option (String × Remainder) :=
        let (digits, rest) := codeDigits 16 most s
        if digits.length = most then
          match charOfCode? (codeValue 16 digits) with
          | some c => unicodeTail fuel (c :: taken) rest
          | none => none
        else none
      match s.second? with
      | some '\\' => unicodeTail fuel ('\\' :: taken) (s.drop 2)
      | some '+' => digits 6 (s.drop 2)
      | _ => digits 4 s.next
    | some c => unicodeTail fuel (c :: taken) s.next

/-- Splits at the first place where `mark` stands; none if it stands nowhere. -/
def splitAtMark? (mark : List Char) : List Char → Option (List Char × List Char)
  | [] => if mark.isEmpty then some ([], []) else none
  | c :: rest =>
    if mark.isPrefixOf (c :: rest) then some ([], (c :: rest).drop mark.length)
    else (splitAtMark? mark rest).map fun r => (c :: r.1, r.2)

/-- Reads what begins with a dollar sign: a placeholder or a string between tags. -/
def dollarToken (d : Dialect) (s : Remainder) : Scan :=
  let behind := s.next
  let (tag, afterTag) := behind.takeWhile fun c =>
    Text.isAlphanumeric c || c == '_' || (d.dollarPlaceholders && c == '$')
  if d.dollarPlaceholders || afterTag.head? ≠ some '$' then
    .ok (some (.placeholder ("$" ++ String.ofList tag)), afterTag)
  else
    let body := afterTag.next
    match splitAtMark? ('$' :: tag ++ ['$']) body.rest with
    | some (text, _) =>
      .ok (some (.string (.dollar (String.ofList tag)) (String.ofList text)),
        body.drop (text.length + tag.length + 2))
    | none => complain "Unterminated dollar-quoted string" (body.drop body.rest.length).place

/-! ## Words and numbers -/

/-- Reads a delimited word from its opening delimiter on; the closing one is doubled inside. -/
def delimitedText (closing : Char) (s : Remainder) : Except String (String × Remainder) :=
  match quotedTail ⟨closing, false, false, false⟩ s.next.place s.next.rest with
  | some (text, s) => .ok (String.ofList text, s)
  | none =>
    complain ("Expected close delimiter '" ++ String.ofList [closing] ++ "' before EOF.") s.place

/-- Reads a word that begins with `begun`, which is gone already. -/
def wordFrom (d : Dialect) (begun : List Char) (s : Remainder) : Scan :=
  let (text, s) := s.takeWhile d.continuesWord
  let word := begun ++ text
  if word.all fun c => Text.isAsciiDigit c || c == '.' then
    let (more, s) := s.takeWhile fun c => Text.isAsciiDigit c || c == '.'
    .ok (some (.number (String.ofList (word ++ more)) false), s)
  else .ok (some (.word (String.ofList word) none), s)

/-- Reads a word from its first character on. -/
def wordToken (d : Dialect) (s : Remainder) : Scan :=
  wordFrom d (s.rest.take 1) s.next

/-- Whether the underscore `c` groups digits before `rest`. -/
def groups (d : Dialect) (c : Char) (rest : List Char) : Bool :=
  d.groupsDigits && c == '_' && rest.head?.any fun c =>
    Text.isAsciiDigit c || ('a' ≤ c && c ≤ 'f') || ('A' ≤ c && c ≤ 'F')

/-- Takes digits and the underscores that group them. -/
def takeDigits (d : Dialect) (s : Remainder) : List Char × Remainder :=
  Remainder.takeFrom (fun c rest => Text.isAsciiDigit c || groups d c rest) s.place s.rest

/-- The exponent at the front of a text, if there is one: its letter, sign and digits. -/
def exponentOf (s : List Char) : List Char :=
  match s with
  | e :: rest =>
    if e = 'e' || e = 'E' then
      let (signs, rest) := match rest with
        | c :: rest => if c = '+' || c = '-' then ([c], rest) else ([], c :: rest)
        | [] => ([], [])
      let digits := rest.takeWhile Text.isAsciiDigit
      if digits.isEmpty then [] else e :: signs ++ digits
    else []
  | [] => []

/-- Reads a number, or the period that stands in its place. `before` is the token before it. -/
def numberToken (d : Dialect) (before : Option Token) (s : Remainder) : Scan := do
  let afterWord := match before with
    | some (.word ..) => true
    | _ => false
  if s.head? = some '.' && s.second? = some '_' then
    if afterWord then takeSign "." 1 s
    else complain "Unexpected character '_'" s.place
  else
    let (whole, s) := takeDigits d s
    if whole = ['0'] && s.head? = some 'x' then
      let (digits, s) := Remainder.takeFrom (fun c rest =>
        Text.isAsciiDigit c || ('a' ≤ c && c ≤ 'f') || ('A' ≤ c && c ≤ 'F') || groups d c rest)
        s.next.place s.next.rest
      return (some (.string .hexadecimal (String.ofList digits)), s)
    else
      let (point, s) := if s.head? = some '.' then (['.'], s.next) else ([], s)
      if whole.isEmpty && d.wordsMayBeginWithDigits && afterWord then
        return (some (.sign "."), s)
      else
        let (fraction, s) := takeDigits d s
        let digits := whole ++ point ++ fraction
        if digits = ['.'] then return (some (.sign "."), s)
        else
          let exponent := exponentOf s.rest
          let s := s.drop exponent.length
          let digits := digits ++ exponent
          let (more, afterMore) := s.takeWhile d.continuesWord
          if d.wordsMayBeginWithDigits && exponent.isEmpty && !more.isEmpty then
            return (some (.word (String.ofList (digits ++ more)) none), afterMore)
          else if d.wordsMayBeginWithDigits && !exponent.isEmpty && before = some (.sign ".") then
            return (some (.word (String.ofList digits) none), s)
          else if s.head? = some 'L' then
            return (some (.number (String.ofList digits) true), s.next)
          else return (some (.number (String.ofList digits) false), s)

/-! ## Signs -/

/-- The signs that some dialects know besides. -/
def dialectSigns (d : Dialect) : List String :=
  (if d.geometricOperators then ["@-@", "?", "?&", "?|"] ++ geometricSigns ++ brokenSigns else [])
    ++ (if d.slashDivision then ["//"] else []) ++ (if d.stages then ["|>"] else [])

/-- The signs of a dialect as they are written and as they are shown. -/
def writtenSigns (d : Dialect) : List (String × String) :=
  ("!=", "<>") :: (knownSigns ++ dialectSigns d).map fun text => (text, text)

/-- The signs that other operator characters may follow to make an operator of one dialect. -/
def openSigns : List String :=
  ["-", "->", "%", "|/", "||", "||/", "|", "!~", "!~*", "!~~", "!~~*", "<", "<=", "<=>", "<>", "<<",
    "<@", ">", ">=", ">>", "&", "&&", "~", "~*", "~~", "~~*", "#", "#-", "#>", "#>>", "@", "<->",
    "<^", ">^", "<<|", "|>>", "|&>", "&<", "##", "~="] ++ brokenSigns

/-- The longest sign at the front of a text, as it is written and as it is shown. -/
def signAt? (d : Dialect) (s : List Char) : Option (String × String) :=
  ((writtenSigns d).filter fun sign => sign.1.toList.isPrefixOf s).foldl (fun best sign =>
    match best with
    | some (b : String × String) => if b.1.length < sign.1.length then some sign else best
    | none => some sign) none

/-- Takes a sign, and in `postgres` the operator characters behind it. -/
def operatorToken (d : Dialect) (written shown : String) (s : Remainder) : Scan :=
  let goesOn := d == .postgres && openSigns.contains written
  let (more, behind) := (s.drop written.length).takeWhile fun c => goesOn && isOperatorCharacter c
  if more.isEmpty && brokenSigns.contains written && d.geometricOperators then
    complain ("Expected a valid binary operator after '" ++ written ++ "'") behind.place
  else .ok (some (.sign (shown ++ String.ofList more)), behind)

/--
The first characters of a word that `#` or `@` begins. Such a word has at least one more character,
whichever it is; before a blank the mark stands alone, and some operators begin with it, too.
-/
def markedWord? (d : Dialect) (c : Char) (s : Remainder) : Option (List Char) :=
  if !d.startsWord c then none
  else
    match c, s.rest.tail with
    | '#', next :: _ =>
      if ['-', '>', ' '].contains next || (next = '#' && d.geometricOperators) then none
      else some [c, next]
    | '@', '@' :: next :: _ => if next = ' ' then none else some [c, '@', next]
    | '@', next :: _ =>
      if ['@', '>', '?', ' ', '\'', '"', '\x60'].contains next then none else some [c, next]
    | _, _ => none

/-- Reads a sign, or a single character that has no meaning. -/
def signToken (d : Dialect) (s : Remainder) : Scan :=
  match s.head? with
  | none => .ok (none, s)
  | some c =>
    if c = '?' && !d.geometricOperators then
      let (digits, rest) := s.next.takeWhile Text.isNumeric
      .ok (some (.placeholder ("?" ++ String.ofList digits)), rest)
    else
      match markedWord? d c s, signAt? d s.rest with
      | some begun, _ => wordFrom d begun (s.drop begun.length)
      | none, some (written, shown) => operatorToken d written shown s
      | none, none => takeSign (String.ofList [c]) 1 s

/-- Whether the word in brackets at the front of a text is delimited, and by which inner quote. -/
def bracketed? (d : Dialect) (s : List Char) : Option (Option Char) :=
  if d == .redshift && s.head? = some '[' then
    match s.tail.dropWhile Text.isBlank with
    | c :: _ => if c = '"' then some (some c) else if d.startsWord c then some none else none
    | [] => none
  else none

/-- Reads a word in brackets that has quotes inside of them. -/
def bracketedQuoted (s : Remainder) : Scan := do
  let inner := (s.next.takeWhile Text.isBlank).2
  let (text, behind) ← delimitedText '"' inner
  let behind := (behind.takeWhile Text.isBlank).2
  if behind.head? = some ']' then
    return (some (.word ("\"" ++ text ++ "\"") (some '[')), behind.next)
  else complain "Expected close delimiter ']' before EOF." s.place

/-! ## Tokens -/

/-- Reads a word, or a string that its first letter introduces. -/
def letterToken (d : Dialect) (c : Char) (s : Remainder) : Scan :=
  let second := s.second?
  let quoteFollows := second = some '\'' || second = some '"'
  let word := wordFrom d [c] s.next
  match Text.asciiLower c with
  | 'b' =>
    if d.byteStrings && quoteFollows then
      if second = some '\'' then stringOf d false .singleBytes .tripleSingleBytes s.next
      else stringOf d false .doubleBytes .tripleDoubleBytes s.next
    else word
  | 'r' =>
    if d.rawStrings && quoteFollows then
      if second = some '\'' then stringOf d false .rawSingle .rawTripleSingle s.next
      else stringOf d false .rawDouble .rawTripleDouble s.next
    else word
  | 'n' => if second = some '\'' then
      (quotedText ⟨'\'', false, d.backslashEscapes, d.keepsWildcardEscapes⟩ s.next).map
        fun r => (some (.string .national r.1), r.2)
    else word
  | 'e' =>
    if d.escapeStrings && second = some '\'' then
      match escapedTail (s.rest.length + 1) [] (s.drop 2) with
      | some (text, rest) => .ok (some (.string .escaped text), rest)
      | none => complain "Unterminated encoded string literal" s.place
    else word
  | 'u' =>
    if d.unicodeStrings && second = some '&' && s.rest[2]? = some '\'' then
      match unicodeTail (s.rest.length + 1) [] (s.drop 3) with
      | some (text, rest) => .ok (some (.string .unicode text), rest)
      | none => complain "Unterminated unicode encoded string literal" s.place
    else word
  | 'x' => if second = some '\'' then
      (quotedText ⟨'\'', false, true, d.keepsWildcardEscapes⟩ s.next).map
        fun r => (some (.string .hexadecimal r.1), r.2)
    else word
  | _ => word

/-- Whether `--` begins a comment at the front of a text. -/
def beginsLineComment (d : Dialect) : List Char → Bool
  | '-' :: '-' :: rest => !d.spacedComments || rest.head?.any Text.isBlank
  | '/' :: '/' :: _ => d.slashComments
  | '#' :: _ => d.hashComments
  | _ => false

/-- Reads a token that begins with `c`; blanks and comments yield none. -/
def tokenAt (d : Dialect) (before : Option Token) (c : Char) (s : Remainder) : Scan :=
  if Text.isBlank c && !d.startsWord c then .ok (none, s.next)
  else if beginsLineComment d s.rest then lineComment s
  else if c = '/' && s.second? = some '*' then
    match blockComment d.nestsComments (s.drop 2).place 0 (s.drop 2).rest with
    | .ok rest => .ok (none, rest)
    | .error e => .error e
  else if (Text.asciiLower c = 'b' && d.byteStrings) || (Text.asciiLower c = 'r' && d.rawStrings)
      || Text.asciiLower c = 'n' || (Text.asciiLower c = 'e' && d.escapeStrings)
      || (Text.asciiLower c = 'u' && d.unicodeStrings) || Text.asciiLower c = 'x' then
    letterToken d c s
  else if c = '\'' then stringOf d d.backslashEscapes .single .tripleSingle s
  else if Text.isAsciiDigit c || c = '.' then numberToken d before s
  else if d.startsWord c && c ≠ '#' && c ≠ '@' then wordToken d s
  else
    match d.closingDelimiter? c, bracketed? d s.rest with
    | some closing, _ => (delimitedText closing s).map fun r => (some (.word r.1 (some c)), r.2)
    | none, some none => (delimitedText ']' s).map fun r => (some (.word r.1 (some c)), r.2)
    | none, some (some _) => bracketedQuoted s
    | none, none =>
      if c = '"' then stringOf d d.backslashEscapes .double .tripleDouble s
      else if c = '$' then dollarToken d s
      else signToken d s

/-- Reads all tokens of a text. `fuel` bounds its characters. -/
def tokensFrom (d : Dialect) :
    (fuel : Nat) → (before : Option Token) → (isSpaced : Bool) → Remainder →
      Except String (List Lexeme)
  | 0, _, _, _ => .ok []
  | fuel + 1, before, isSpaced, s =>
    match s.rest with
    | [] => .ok []
    | c :: _ => do
      match ← tokenAt d before c s with
      | (none, rest) => tokensFrom d fuel none true rest
      | (some token, rest) =>
        return ⟨token, s.place, isSpaced⟩ :: (← tokensFrom d fuel (some token) false rest)

/-- The tokens of a statement, or a complaint. -/
def tokens (d : Dialect) (sql : String) : Except String (List Lexeme) :=
  tokensFrom d (sql.length + 1) none false ⟨sql.toList, ⟨1, 1⟩⟩

end Lexer

end JoinGraph.Sql
