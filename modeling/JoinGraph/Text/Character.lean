import JoinGraph.Text.Tables

/-!
# Character classes

The classes of characters that names, numbers and words are read by. Each is a property of Unicode,
not of ASCII alone: a statement may name its tables in any script.

* `isBlank`: white space, as trimming and splitting see it;
* `isAlphabetic`, `isNumeric`, `isAlphanumeric`: what a plain name is made of;
* `isWordPart`: what a word boundary separates, which is wider (marks, joiners) in one direction and
  narrower (numerals that are no decimal digits) in the other.

ASCII characters are decided without the tables, the others by a search through them.
-/

namespace JoinGraph.Text

/-- Whether a code point lies in one of the ranges of a table. -/
def inTable (table : Array (Nat × Nat)) (code : Nat) : Bool :=
  table.any fun range => range.1 ≤ code && code ≤ range.2

/-- White space: the property `White_Space`. -/
def isBlank (c : Char) : Bool :=
  let code := c.toNat
  (9 ≤ code && code ≤ 13) || code == 0x20 || code == 0x85 || code == 0xA0 || code == 0x1680 ||
    (0x2000 ≤ code && code ≤ 0x200A) || code == 0x2028 || code == 0x2029 || code == 0x202F ||
    code == 0x205F || code == 0x3000

/-- `a` to `z` and `A` to `Z`. -/
def isAsciiLetter (c : Char) : Bool :=
  (97 ≤ c.toNat && c.toNat ≤ 122) || (65 ≤ c.toNat && c.toNat ≤ 90)

/-- `0` to `9`. -/
def isAsciiDigit (c : Char) : Bool := 48 ≤ c.toNat && c.toNat ≤ 57

/-- Letters, and the marks that count as letters: the property `Alphabetic`. -/
def isAlphabetic (c : Char) : Bool :=
  if c.toNat < 128 then isAsciiLetter c else inTable Tables.alphabetic c.toNat

/-- Decimal digits of every script. -/
def isDecimalDigit (c : Char) : Bool :=
  if c.toNat < 128 then isAsciiDigit c else inTable Tables.decimalDigit c.toNat

/-- Numerals of every kind that are not letters. -/
def isNumeric (c : Char) : Bool :=
  if c.toNat < 128 then isAsciiDigit c
  else inTable Tables.decimalDigit c.toNat || inTable Tables.otherNumeral c.toNat

/-- Letters and numerals. -/
def isAlphanumeric (c : Char) : Bool := isAlphabetic c || isNumeric c

/-- Characters that belong to a word: letters, decimal digits, marks and connectors. -/
def isWordPart (c : Char) : Bool :=
  if c.toNat < 128 then isAsciiLetter c || isAsciiDigit c || c == '_'
  else inTable Tables.alphabetic c.toNat || inTable Tables.decimalDigit c.toNat ||
    inTable Tables.wordMark c.toNat

/-- The lower-case form of an ASCII letter; every other character is its own. -/
def asciiLower (c : Char) : Char :=
  if 65 ≤ c.toNat && c.toNat ≤ 90 then Char.ofNat (c.toNat + 32) else c

/--
The lower-case ASCII letter that a character stands for when letter case is disregarded: beside the
capitals these are the long s (`ſ`) and the Kelvin sign. Every other character is its own.
-/
def foldLower (c : Char) : Char :=
  if c.toNat == 0x17F then 's' else if c.toNat == 0x212A then 'k' else asciiLower c

end JoinGraph.Text
