import JoinGraph.Json.Value

/-!
# Reading numbers

A decimal numeral is read as an integer if it has no point and no exponent and fits into 64 bits.
Any other numeral is a double, found in two steps: the leading digits, as many as fit into 64
bits, are rounded to a double, and that is multiplied or divided by the power of ten that is left.
Both steps round, so a numeral with more than fifteen digits or a large exponent may miss the
nearest double by one place; integers and the usual decimals are exact. A numeral beyond all
doubles is out of range.
-/

namespace JoinGraph.Json

/-- Why no number was read. -/
inductive NumberFault where
  | malformed | outOfRange
  deriving DecidableEq, Repr

/-- The greatest unsigned integer of 64 bits. -/
def maxNatural : Nat := Nat.pow 2 64 - 1

/-- The greatest magnitude of a negative integer of 64 bits. -/
def maxNegative : Nat := Nat.pow 2 63

/-- The power of ten that is nearest to `10^n` among the doubles. -/
def powerOfTen (n : Nat) : Float := Float.ofScientific 1 false n

/-- Whether a double is infinite. -/
def isInfinite (x : Float) : Bool := x == 1.0 / 0.0

/--
`value · 10^exponent` with one rounding per step. Far below all doubles the value is scaled in steps
of `10^308` until it is zero or the rest is small; `steps` bounds them.
-/
def scaleByTen : Nat → Float → Int → Except NumberFault Float
  | 0, value, _ => .ok value
  | steps + 1, value, exponent =>
    if exponent.natAbs ≤ 308 then
      if 0 ≤ exponent then
        let scaled := value * powerOfTen exponent.natAbs
        if isInfinite scaled then .error .outOfRange else .ok scaled
      else .ok (value / powerOfTen exponent.natAbs)
    else if value == 0.0 then .ok value
    else if 0 ≤ exponent then .error .outOfRange
    else scaleByTen steps (value / powerOfTen 308) (exponent + 308)

/-- The double of `significand · 10^exponent` and a sign. -/
def doubleOf (isNegative : Bool) (significand : Nat) (exponent : Int) :
    Except NumberFault Number := do
  let scaled ← scaleByTen 8 significand.toUInt64.toFloat exponent
  return .double (if isNegative then -scaled else scaled).toBits

/-- The value of a decimal digit. -/
def digitValue (c : Char) : Nat := c.toNat - 48

/-- The value of a list of digits. -/
def digitsValue (digits : List Char) : Nat := digits.foldl (fun n c => 10 * n + digitValue c) 0

/--
Takes digits into a significand as long as it fits into 64 bits. Yields the significand and the
digits that no longer fit.
-/
def takeSignificand (significand : Nat) : List Char → Nat × List Char
  | [] => (significand, [])
  | c :: rest =>
    let next := 10 * significand + digitValue c
    if next ≤ maxNatural then takeSignificand next rest else (significand, c :: rest)

/-- The parts of a numeral: sign, whole digits, digits after the point, exponent with its sign. -/
structure Numeral where
  isNegative : Bool
  whole : List Char
  fraction : Option (List Char)
  exponent : Option (Bool × List Char)

/-- The greatest exponent that is taken at its value. -/
def maxExponent : Nat := Nat.pow 2 31 - 1

/-- The number that a numeral stands for. -/
def Numeral.number (n : Numeral) : Except NumberFault Number :=
  let (significand, dropped) := takeSignificand 0 n.whole
  match n.fraction, n.exponent, dropped with
  | none, none, [] =>
    if !n.isNegative then .ok (.natural significand)
    else if significand = 0 then doubleOf true 0 0
    else if significand ≤ maxNegative then .ok (.negative significand)
    else doubleOf true significand 0
  | fraction, exponent, dropped =>
    let digits := fraction.getD []
    let (significand, unused) := takeSignificand significand digits
    let place : Int := (dropped.length : Int) - ((digits.length : Int) - unused.length)
    match exponent with
    | none => doubleOf n.isNegative significand place
    | some (below, power) =>
      let power := digitsValue power
      if maxExponent < power then
        if significand ≠ 0 && !below then .error .outOfRange
        else doubleOf n.isNegative 0 0
      else doubleOf n.isNegative significand (if below then place - power else place + power)

/-- Splits off the decimal digits in front. -/
def spanDigits (s : List Char) : List Char × List Char :=
  (s.takeWhile fun c => '0' ≤ c && c ≤ '9', s.dropWhile fun c => '0' ≤ c && c ≤ '9')

/-- Reads the whole text as a numeral, if it is one. -/
def Numeral.read? (text : List Char) : Option Numeral := do
  let (isNegative, text) := match text with
    | '-' :: rest => (true, rest)
    | _ => (false, text)
  let (whole, text) := spanDigits text
  guard (!whole.isEmpty && (whole.length == 1 || whole.head? != some '0'))
  let (fraction, text) ← match text with
    | '.' :: rest =>
      let (digits, rest) := spanDigits rest
      if digits.isEmpty then none else some (some digits, rest)
    | _ => some (none, text)
  let readPower (below : Bool) (rest : List Char) : Option (Option (Bool × List Char)) :=
    let (digits, rest) := spanDigits rest
    if digits.isEmpty || !rest.isEmpty then none else some (some (below, digits))
  let exponent ← match text with
    | [] => some none
    | c :: rest =>
      if c = 'e' || c = 'E' then
        match rest with
        | '+' :: rest => readPower false rest
        | '-' :: rest => readPower true rest
        | _ => readPower false rest
      else none
  return ⟨isNegative, whole, fraction, exponent⟩

/-- The number whose numeral is the whole text. -/
def Number.read? (text : String) : Option Number := do
  let numeral ← Numeral.read? text.toList
  match numeral.number with
  | .ok n => some n
  | .error _ => none

end JoinGraph.Json
