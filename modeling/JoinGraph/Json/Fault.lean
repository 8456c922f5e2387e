import JoinGraph.Json.Value

/-!
# What can be wrong with a JSON text

Two kinds of faults. A `Mismatch` concerns a well-formed value that is not what was asked for; it
may be found in a value as well as in a text. A `Fault` concerns the text itself, or is a mismatch
found while reading. Each fault is a cause; `Fault.message` words it, and a `ReadError` adds the
place.
-/

namespace JoinGraph.Json

/-- Why a well-formed value is not of the wanted type. -/
inductive Mismatch where
  | wrongType (found expected : String)
  | wrongLength (length : Nat) (expected : String)
  | missingMember (name : String)
  | repeatedMember (name : String)
  | unknownName (name : String) (known : List String)
  | notSingle
  | noAlternative (type : String)
  deriving DecidableEq, Repr

/-- A text between backquotes. -/
def backquoted (text : String) : String := "\x60" ++ text ++ "\x60"

/-- The names an enumeration knows, as a sentence lists them. -/
def knownNames : List String → String
  | [] => "there are no variants"
  | [name] => "expected " ++ backquoted name
  | [first, second] => "expected " ++ backquoted first ++ " or " ++ backquoted second
  | names => "expected one of " ++ ", ".intercalate (names.map backquoted)

/-- How many elements a record has, in words. -/
def elementCount (type : String) (arity : Nat) : String :=
  type ++ " with " ++ String.ofList (Nat.toDigits 10 arity) ++
    (if arity = 1 then " element" else " elements")

/-- The wording of a mismatch. -/
def Mismatch.message : Mismatch → String
  | wrongType found expected => "invalid type: " ++ found ++ ", expected " ++ expected
  | wrongLength length expected =>
    "invalid length " ++ String.ofList (Nat.toDigits 10 length) ++ ", expected " ++ expected
  | missingMember name => "missing field " ++ backquoted name
  | repeatedMember name => "duplicate field " ++ backquoted name
  | unknownName name known => "unknown variant " ++ backquoted name ++ ", " ++ knownNames known
  | notSingle => "invalid value: map, expected map with a single key"
  | noAlternative type => "data did not match any variant of untagged enum " ++ type

/-- A string as a mismatch shows it: quoted, with the usual escapes. -/
def showString (s : String) : String := "string " ++ debugQuote s
where
  /-- Quotes a text with the escapes that keep it on one line. -/
  debugQuote (s : String) : String :=
    String.ofList ('"' :: s.toList.flatMap escape ++ ['"'])
  /-- How a character stands between the quotes. -/
  escape (c : Char) : List Char :=
    if c = '"' then ['\\', '"']
    else if c = '\\' then ['\\', '\\']
    else if c = '\n' then ['\\', 'n']
    else if c = '\r' then ['\\', 'r']
    else if c = '\t' then ['\\', 't']
    else if c.toNat = 0 then ['\\', '0']
    else if c.toNat < 32 || c.toNat = 127 then
      ['\\', 'u', '\x7b'] ++ Nat.toDigits 16 c.toNat ++ ['\x7d']
    else [c]

/-- A number as a mismatch shows it. -/
def showNumber : Number → String
  | .double bits => "floating point " ++ backquoted (Number.double bits).text
  | n => "integer " ++ backquoted n.text

/-- What a mismatch calls a value. -/
def describe : Json → String
  | null => "null"
  | bool b => "boolean " ++ backquoted (if b then "true" else "false")
  | number n => showNumber n
  | string s => showString s
  | array _ => "sequence"
  | object _ => "map"

/-- What stops the reading of a text. -/
inductive Fault where
  | endInValue | endInString | endInArray | endInObject
  | valueExpected | wordExpected | colonExpected | nameExpected
  | arrayEndExpected | objectEndExpected | commaAtEnd | textAfterValue
  | malformedNumber | numberOutOfRange
  | unknownEscape | controlCharacter | loneSurrogate | halfSurrogatePair
  | tooDeep
  | mismatch (m : Mismatch)
  deriving DecidableEq, Repr

/-- The wording of a fault. -/
def Fault.message : Fault → String
  | endInValue => "EOF while parsing a value"
  | endInString => "EOF while parsing a string"
  | endInArray => "EOF while parsing a list"
  | endInObject => "EOF while parsing an object"
  | valueExpected => "expected value"
  | wordExpected => "expected ident"
  | colonExpected => "expected \x60:\x60"
  | nameExpected => "key must be a string"
  | arrayEndExpected => "expected \x60,\x60 or \x60]\x60"
  | objectEndExpected => "expected \x60,\x60 or \x60\x7d\x60"
  | commaAtEnd => "trailing comma"
  | textAfterValue => "trailing characters"
  | malformedNumber => "invalid number"
  | numberOutOfRange => "number out of range"
  | unknownEscape => "invalid escape"
  | controlCharacter => "control character (\\u0000-\\u001F) found while parsing a string"
  | loneSurrogate => "lone leading surrogate in hex escape"
  | halfSurrogatePair => "unexpected end of hex escape"
  | tooDeep => "recursion limit exceeded"
  | mismatch m => m.message

/-- A place in a text: the line, and how many bytes of it were read. -/
structure Place where
  line : Nat
  column : Nat
  deriving DecidableEq, Repr

/-- Where a text begins. -/
def Place.start : Place := ⟨1, 0⟩

/-- The place after a character. -/
def Place.after (p : Place) (c : Char) : Place :=
  if c = '\n' then ⟨p.line + 1, 0⟩ else ⟨p.line, p.column + c.utf8Size⟩

/-- The place `bytes` bytes further on, at most at the end of the text. -/
def Place.advance (p : Place) : Nat → List Char → Place
  | 0, _ => p
  | _, [] => p
  | bytes + 1, c :: rest =>
    if c = '\n' then advance ⟨p.line + 1, 0⟩ bytes rest
    else if c.utf8Size ≤ bytes + 1 then
      advance ⟨p.line, p.column + c.utf8Size⟩ (bytes + 1 - c.utf8Size) rest
    else ⟨p.line, p.column + (bytes + 1)⟩
termination_by _ rest => rest.length

/-- A fault and the place where it was found. -/
structure ReadError where
  fault : Fault
  place : Place
  deriving DecidableEq, Repr

/-- The wording of a read error. -/
def ReadError.message (e : ReadError) : String :=
  e.fault.message ++ " at line " ++ String.ofList (Nat.toDigits 10 e.place.line) ++ " column " ++
    String.ofList (Nat.toDigits 10 e.place.column)

end JoinGraph.Json
