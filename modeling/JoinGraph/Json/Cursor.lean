import JoinGraph.Json.Fault
import JoinGraph.Json.Number

/-!
# The elements of JSON text

A `Cursor` is the rest of a text and the place where it begins. A `Reader` takes something off the
front, or says what is wrong and where. This module reads what has no parts of its own: white
space, words, numerals and strings.
-/

namespace JoinGraph.Json

/-- The rest of a text and its place. -/
structure Cursor where
  rest : List Char
  place : Place

/-- Takes a value off the front of a text. -/
abbrev Reader := StateT Cursor (Except ReadError)

/-- The cursor at the beginning of a text. -/
def Cursor.start (text : String) : Cursor := ⟨text.toList, Place.start⟩

namespace Reader

/-- Fails where the cursor stands. -/
def fail {α : Type} (fault : Fault) : Reader α := fun cursor =>
  .error ⟨fault, cursor.place⟩

/-- Fails after the next `bytes` bytes. -/
def failAfter {α : Type} (bytes : Nat) (fault : Fault) : Reader α := fun cursor =>
  .error ⟨fault, cursor.place.advance bytes cursor.rest⟩

/-- Fails after the next byte, which is the one that does not fit. -/
def failAhead {α : Type} (fault : Fault) : Reader α := failAfter 1 fault

/-- The next character, which stays. -/
def ahead : Reader (Option Char) := do return (← get).rest.head?

/-- Drops the next character. -/
def skip : Reader Unit := modify fun cursor =>
  match cursor.rest with
  | [] => cursor
  | c :: rest => ⟨rest, cursor.place.after c⟩

/-- Whether a character separates the elements of a text. -/
def isSpace (c : Char) : Bool := c = ' ' || c = '\n' || c = '\t' || c = '\x0d'

/-- Drops white space from a text, counting places. -/
def dropSpace (place : Place) : List Char → Cursor
  | [] => ⟨[], place⟩
  | c :: rest => if isSpace c then dropSpace (place.after c) rest else ⟨c :: rest, place⟩

/-- Drops white space; yields the character behind it, which stays. -/
def skipSpace : Reader (Option Char) := do
  modify fun cursor => dropSpace cursor.place cursor.rest
  ahead

/-- Reads the rest of a word whose first letter is gone. -/
def word : List Char → Reader Unit
  | [] => pure ()
  | c :: rest => do
    match ← ahead with
    | none => fail .endInValue
    | some found => if found = c then skip; word rest else failAhead .wordExpected

/-- Takes the decimal digits in front. -/
def digits : Reader (List Char) := do
  let cursor ← get
  let (taken, rest) := spanDigits cursor.rest
  set (⟨rest, ⟨cursor.place.line, cursor.place.column + taken.length⟩⟩ : Cursor)
  return taken

/-! ## Numerals -/

/-- The whole digits of a numeral: a zero alone, or digits that start with no zero. -/
def wholeDigits : Reader (List Char) := do
  match ← ahead with
  | none => fail .endInValue
  | some '0' =>
    skip
    match ← ahead with
    | some c => if '0' ≤ c && c ≤ '9' then failAhead .malformedNumber else return ['0']
    | none => return ['0']
  | some c => if '1' ≤ c && c ≤ '9' then digits else failAhead .malformedNumber

/-- The digits after a point, if there is a point. -/
def fractionDigits : Reader (Option (List Char)) := do
  match ← ahead with
  | some '.' =>
    skip
    let taken ← digits
    if taken.isEmpty then
      match ← ahead with
      | none => fail .endInValue
      | some _ => failAhead .malformedNumber
    else return some taken
  | _ => return none

/-- The sign and the digits of an exponent, if there is one. -/
def exponentDigits : Reader (Option (Bool × List Char)) := do
  match ← ahead with
  | some c =>
    if c = 'e' || c = 'E' then
      skip
      let below ← match ← ahead with
        | some '+' => do skip; pure false
        | some '-' => do skip; pure true
        | _ => pure false
      match ← ahead with
      | none => fail .endInValue
      | some c =>
        if '0' ≤ c && c ≤ '9' then return some (below, ← digits) else failAhead .malformedNumber
    else return none
  | none => return none

/-- How many digits of an exponent are read until it is known to be out of range. -/
def overflowLength (value read : Nat) : List Char → Nat
  | [] => read
  | c :: rest =>
    let next := 10 * value + digitValue c
    if maxExponent < next then read + 1 else overflowLength next (read + 1) rest

/-- Reads a numeral whose sign is gone. -/
def unsignedNumber (isNegative : Bool) : Reader Number := do
  let whole ← wholeDigits
  let fraction ← fractionDigits
  let exponent ← exponentDigits
  match (Numeral.mk isNegative whole fraction exponent).number with
  | .ok n => return n
  | .error _ =>
    let unread := match exponent with
      | some (_, power) => power.length - overflowLength 0 0 power
      | none => 0
    let place := (← get).place
    throw ⟨.numberOutOfRange, ⟨place.line, place.column - unread⟩⟩

/-! ## Strings -/

/-- The value of a hexadecimal digit. -/
def hexValue? (c : Char) : Option Nat :=
  if '0' ≤ c && c ≤ '9' then some (c.toNat - 48)
  else if 'a' ≤ c && c ≤ 'f' then some (c.toNat - 87)
  else if 'A' ≤ c && c ≤ 'F' then some (c.toNat - 55)
  else none

/-- The number of bytes of a text. -/
def byteCount (text : List Char) : Nat := text.foldl (fun n c => n + c.utf8Size) 0

/-- The value of four hexadecimal digits. -/
def hexQuad : Reader Nat := fun cursor =>
  match cursor.rest with
  | a :: b :: c :: d :: rest =>
    match hexValue? a, hexValue? b, hexValue? c, hexValue? d with
    | some a, some b, some c, some d =>
      .ok (((a * 16 + b) * 16 + c) * 16 + d,
        ⟨rest, ⟨cursor.place.line, cursor.place.column + 4⟩⟩)
    | _, _, _, _ => failAfter 4 .unknownEscape cursor
  | short =>
    if byteCount short < 4 then failAfter (byteCount short) .endInString cursor
    else failAfter 4 .unknownEscape cursor

/-- Takes the character `c`, which the second half of a surrogate pair needs. -/
def pairMark (c : Char) : Reader Unit := do
  match ← ahead with
  | none => fail .endInString
  | some found => if found = c then skip else failAhead .halfSurrogatePair

/-- The character of an escape that starts with `u`. Two escapes make a character beyond the first
plane. -/
def unicodeEscape : Reader Char := do
  let first ← hexQuad
  if 0xDC00 ≤ first && first ≤ 0xDFFF then fail .loneSurrogate
  else if 0xD800 ≤ first && first ≤ 0xDBFF then
    pairMark '\\'
    pairMark 'u'
    let second ← hexQuad
    if 0xDC00 ≤ second && second ≤ 0xDFFF then
      return Char.ofNat (0x10000 + (first - 0xD800) * 0x400 + (second - 0xDC00))
    else fail .loneSurrogate
  else return Char.ofNat first

/-- The character that an escape of one letter stands for. -/
def shortEscape? : Char → Option Char
  | '"' => some '"'
  | '\\' => some '\\'
  | '/' => some '/'
  | 'b' => some '\x08'
  | 'f' => some '\x0c'
  | 'n' => some '\n'
  | 'r' => some '\x0d'
  | 't' => some '\t'
  | _ => none

/-- The character of an escape whose backslash is gone. -/
def escaped : Reader Char := do
  match ← ahead with
  | none => fail .endInString
  | some 'u' => skip; unicodeEscape
  | some c =>
    match shortEscape? c with
    | some meant => skip; return meant
    | none => failAhead .unknownEscape

/-- Reads a string up to its closing quote. `fuel` is a bound on the characters left. -/
def stringTail : (fuel : Nat) → (taken : List Char) → Reader String
  | 0, _ => fail .endInString
  | fuel + 1, taken => do
    match ← ahead with
    | none => fail .endInString
    | some '"' => skip; return String.ofList taken.reverse
    | some '\\' => skip; stringTail fuel ((← escaped) :: taken)
    | some c =>
      if c.toNat < 32 then failAhead .controlCharacter
      else skip; stringTail fuel (c :: taken)

/-- Reads a string whose opening quote is gone. -/
def string : Reader String := do stringTail ((← get).rest.length + 1) []

/-! ## What separates parts -/

/-- Reads the colon between a name and its value. -/
def colon : Reader Unit := do
  match ← skipSpace with
  | some ':' => skip
  | some _ => failAhead .colonExpected
  | none => fail .endInObject

/-- Where the next item of an array begins, unless the array ends; `first` before the first item. -/
def nextItem (first : Bool) : Reader Bool := do
  match ← skipSpace with
  | none => fail .endInArray
  | some ']' => return false
  | some c =>
    if first then return true
    else if c = ',' then
      skip
      match ← skipSpace with
      | some ']' => failAhead .commaAtEnd
      | some _ => return true
      | none => fail .endInValue
    else failAhead .arrayEndExpected

/-- The name of the next member of an object, unless the object ends. -/
def nextName (first : Bool) : Reader (Option String) := do
  match ← skipSpace with
  | none => fail .endInObject
  | some '}' => return none
  | some c =>
    if first then
      if c = '"' then skip; return some (← string) else failAhead .nameExpected
    else if c = ',' then
      skip
      match ← skipSpace with
      | some '"' => skip; return some (← string)
      | some '}' => failAhead .commaAtEnd
      | some _ => failAhead .nameExpected
      | none => fail .endInValue
    else failAhead .objectEndExpected

/-- Takes the bracket that closes an array, where no further item is wanted. -/
def arrayEnd : Reader Unit := do
  match ← skipSpace with
  | some ']' => skip
  | some ',' =>
    skip
    match ← skipSpace with
    | some ']' => failAhead .commaAtEnd
    | _ => failAhead .textAfterValue
  | some _ => failAhead .textAfterValue
  | none => fail .endInArray

/-- Nothing but white space may follow. -/
def textEnd : Reader Unit := do
  match ← skipSpace with
  | some _ => failAhead .textAfterValue
  | none => pure ()

end Reader

end JoinGraph.Json
