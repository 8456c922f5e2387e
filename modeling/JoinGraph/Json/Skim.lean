import JoinGraph.Json.Cursor

/-!
# Passing over values

A member that is not asked for is passed over without being read. Only the form of its text matters:
numbers may be of any size, brackets nested to any depth, and surrogates need not come in pairs.
-/

namespace JoinGraph.Json.Reader

/-! ## Numerals and strings -/

/-- Passes over the digits of an exponent. -/
def skimExponent : Reader Unit := do
  match ← ahead with
  | some c =>
    if c = 'e' || c = 'E' then
      skip
      match ← ahead with
      | some sign => if sign = '+' || sign = '-' then skip
      | none => pure ()
      match ← ahead with
      | some c =>
        if '0' ≤ c && c ≤ '9' then let _ ← digits else failAhead .malformedNumber
      | none => fail .malformedNumber
  | none => pure ()

/-- Passes over a numeral whose sign is gone. -/
def skimNumber : Reader Unit := do
  match ← ahead with
  | some '0' =>
    skip
    match ← ahead with
    | some c => if '0' ≤ c && c ≤ '9' then failAhead .malformedNumber
    | none => pure ()
  | some c => if '1' ≤ c && c ≤ '9' then let _ ← digits else failAhead .malformedNumber
  | none => fail .malformedNumber
  match ← ahead with
  | some '.' =>
    skip
    if (← digits).isEmpty then failAhead .malformedNumber
  | _ => pure ()
  skimExponent

/-- Passes over an escape whose backslash is gone. -/
def skimEscape : Reader Unit := do
  match ← ahead with
  | none => fail .endInString
  | some 'u' => skip; let _ ← hexQuad
  | some c => if (shortEscape? c).isSome then skip else failAhead .unknownEscape

/-- Passes over a string up to its closing quote. -/
def skimStringTail : (fuel : Nat) → Reader Unit
  | 0 => fail .endInString
  | fuel + 1 => do
    match ← ahead with
    | none => fail .endInString
    | some '"' => skip
    | some '\\' => skip; skimEscape; skimStringTail fuel
    | some c => if c.toNat < 32 then fail .controlCharacter else skip; skimStringTail fuel

/-- Passes over a string whose opening quote is gone. -/
def skimString : Reader Unit := do skimStringTail ((← get).rest.length + 1)

/-! ## Values -/

/-- The two kinds of brackets. -/
inductive Bracket where
  | array | object
  deriving DecidableEq

/-- What comes next inside the open brackets. -/
inductive Phase where
  | value
  | after (commaMayFollow : Bool)

/-- The fault of an array or object that does not go on as it must. -/
def Bracket.endExpected : Bracket → Fault
  | array => .arrayEndExpected
  | object => .objectEndExpected

/-- The fault of an array or object that is not closed. -/
def Bracket.unclosed : Bracket → Fault
  | array => .endInArray
  | object => .endInObject

/-- The character that closes an array or object. -/
def Bracket.closing : Bracket → Char
  | array => ']'
  | object => '}'

/-- Passes over what stands before a value: in an object a name and a colon. -/
def skimName : Bracket → Reader Unit
  | .array => pure ()
  | .object => do
    match ← skipSpace with
    | some '"' => skip; skimString; colon
    | some _ => failAhead .nameExpected
    | none => fail .endInObject

/-- Passes over the rest of a value inside `opened` brackets. `fuel` bounds the steps. -/
def skimWithin : (fuel : Nat) → List Bracket → Phase → Reader Unit
  | 0, _, _ => fail .tooDeep
  | fuel + 1, opened, .value => do
    let closeScalar : Reader Unit :=
      if opened.isEmpty then pure () else skimWithin fuel opened (.after true)
    match ← skipSpace with
    | none => fail .endInValue
    | some 'n' => skip; word ['u', 'l', 'l']; closeScalar
    | some 't' => skip; word ['r', 'u', 'e']; closeScalar
    | some 'f' => skip; word ['a', 'l', 's', 'e']; closeScalar
    | some '-' => skip; skimNumber; closeScalar
    | some '"' => skip; skimString; closeScalar
    | some '[' => skip; skimWithin fuel (.array :: opened) (.after false)
    | some '{' => skip; skimWithin fuel (.object :: opened) (.after false)
    | some c =>
      if '0' ≤ c && c ≤ '9' then skimNumber; closeScalar else failAhead .valueExpected
  | _ + 1, [], .after _ => pure ()
  | fuel + 1, bracket :: opened, .after commaMayFollow => do
    match ← skipSpace with
    | none => fail bracket.unclosed
    | some c =>
      if c = ',' && commaMayFollow then
        skip
        skimName bracket
        skimWithin fuel (bracket :: opened) .value
      else if c = bracket.closing then
        skip
        skimWithin fuel opened (.after true)
      else if commaMayFollow then failAhead bracket.endExpected
      else
        skimName bracket
        skimWithin fuel (bracket :: opened) .value

/-- Passes over a value. -/
def skim : Reader Unit := do skimWithin (2 * (← get).rest.length + 2) [] .value

end JoinGraph.Json.Reader
