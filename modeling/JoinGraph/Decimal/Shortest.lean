/-!
# Shortest decimal text of a binary number

A binary floating-point number `m · 2^q` stands for every real that rounds to it. `shortest m q`
is the decimal with the fewest digits among those reals, and the one nearest to `m · 2^q` where
several have that many. The search is in exact natural-number arithmetic: for one digit, two
digits, … up to seventeen, it asks whether one of the two neighbours of the number on that decimal
grid lies in the interval (`Interval.holds`).

Where the digits are put — positional or with an exponent — is the business of a `Layout`.
-/

namespace JoinGraph.Decimal

/-- The number of decimal digits of a natural number; zero has one. -/
def digitCount (n : Nat) : Nat := (Nat.toDigits 10 n).length

/-- The reals that round to `middle · 2^power`, in the unit `2^power`. -/
structure Interval where
  low : Nat
  middle : Nat
  high : Nat
  power : Int
  closed : Bool

/--
The interval of `m · 2^q`, in quarters of the last binary place. Below a power of two the
neighbour is only half as far away (`narrow`). The ends belong to it when `m` is even.
-/
def Interval.around (m : Nat) (q : Int) (narrow : Bool) : Interval :=
  ⟨4 * m - (if narrow then 1 else 2), 4 * m, 4 * m + 2, q - 2, m % 2 == 0⟩

namespace Interval

/-- What a decimal coefficient counts for next to a binary one: `10^place` over `2^power`. -/
def decimalUnit (i : Interval) (place : Int) : Nat :=
  Nat.pow 10 place.toNat * Nat.pow 2 (-i.power).toNat

/-- What a binary coefficient counts for next to a decimal one. -/
def binaryUnit (i : Interval) (place : Int) : Nat :=
  Nat.pow 2 i.power.toNat * Nat.pow 10 (-place).toNat

/-- Whether `digits · 10^place` lies in the interval. -/
def holds (i : Interval) (digits : Nat) (place : Int) : Bool :=
  let decimal := digits * i.decimalUnit place
  let low := i.low * i.binaryUnit place
  let high := i.high * i.binaryUnit place
  if i.closed then low ≤ decimal && decimal ≤ high else low < decimal && decimal < high

/-- The greatest multiple of `10^place` that is at most the middle. -/
def floorAt (i : Interval) (place : Int) : Nat :=
  i.middle * i.binaryUnit place / i.decimalUnit place

/-- Whether the multiple above `digits` is nearer to the middle than `digits` is. -/
def nearerAbove (i : Interval) (digits : Nat) (place : Int) : Bool :=
  let middle := i.middle * i.binaryUnit place
  let unit := i.decimalUnit place
  let below := middle - digits * unit
  let above := (digits + 1) * unit - middle
  above < below || (above == below && digits % 2 == 1)

/-- The neighbour of the middle on the grid `10^place` that lies in the interval, the nearer
first. -/
def onGrid? (i : Interval) (place : Int) : Option Nat :=
  let digits := i.floorAt place
  match i.holds digits place, i.holds (digits + 1) place with
  | true, true => some (if i.nearerAbove digits place then digits + 1 else digits)
  | true, false => some digits
  | false, true => some (digits + 1)
  | false, false => none

/-- The place of the first digit of the middle, counted from the decimal point: `10^place` is
greater than the middle and a tenth of it is not. `steps` bounds the search below one. -/
def leadingPlace (i : Interval) : Nat → Int → Int
  | 0, place => place
  | steps + 1, place =>
    if i.floorAt (place - 1) = 0 then leadingPlace i steps (place - 1) else place

/-- The first grid, from coarse to fine, on which the interval holds a point. -/
def firstGrid (i : Interval) (lead : Int) : Nat → Nat × Int
  | 0 => (i.floorAt (lead - 17), lead - 17)
  | left + 1 =>
    let place := lead - (17 - left : Nat)
    match i.onGrid? place with
    | some digits => (digits, place)
    | none => firstGrid i lead left

end Interval

/-- Moves the zeros at the end of a coefficient into its place. -/
def stripZeros : Nat → Nat × Int → Nat × Int
  | 0, d => d
  | steps + 1, (digits, place) =>
    if digits ≠ 0 ∧ digits % 10 = 0 then stripZeros steps (digits / 10, place + 1)
    else (digits, place)

/-- The shortest decimal that rounds to `m · 2^q`, as coefficient and place. -/
def shortest (m : Nat) (q : Int) (narrow : Bool) : Nat × Int :=
  if m = 0 then (0, 0)
  else
    let i := Interval.around m q narrow
    let whole := i.floorAt 0
    let lead : Int := if whole = 0 then i.leadingPlace 400 0 else digitCount whole
    stripZeros 20 (i.firstGrid lead 17)

/-- Where positional notation ends and how an exponent is written. -/
structure Layout where
  /-- the greatest count of digits before the point that is written out -/
  mostWhole : Int
  /-- the greatest count of zeros between the point and the first digit that is written out -/
  mostZeros : Int

/-- The text of `digits · 10^place`, with a point or an exponent in any case. -/
def Layout.render (layout : Layout) (digits : Nat) (place : Int) : String :=
  let text := Nat.toDigits 10 digits
  let whole : Int := text.length + place
  let zeros (n : Int) : List Char := List.replicate n.toNat '0'
  if digits = 0 then "0.0"
  else if 0 ≤ place ∧ whole ≤ layout.mostWhole then
    String.ofList (text ++ zeros place ++ ['.', '0'])
  else if 0 < whole ∧ whole ≤ layout.mostWhole then
    String.ofList (text.take whole.toNat ++ '.' :: text.drop whole.toNat)
  else if whole ≤ 0 ∧ -whole ≤ layout.mostZeros then
    String.ofList ('0' :: '.' :: zeros (-whole) ++ text)
  else
    let fraction := if text.length = 1 then [] else '.' :: text.drop 1
    let exponent := whole - 1
    String.ofList (text.take 1 ++ fraction ++ ['e', if exponent < 0 then '-' else '+']
      ++ Nat.toDigits 10 exponent.natAbs)

/-! ## Double precision -/

/-- The parts of a double-precision number given by its bits. -/
structure Double where
  negative : Bool
  exponent : Nat
  fraction : Nat

/-- Takes the bits of a double apart. -/
def Double.ofBits (bits : UInt64) : Double :=
  let n := bits.toNat
  ⟨Nat.pow 2 63 ≤ n, n / Nat.pow 2 52 % Nat.pow 2 11, n % Nat.pow 2 52⟩

/-- The shortest decimal text of a finite double. -/
def Double.render (layout : Layout) (d : Double) : String :=
  let subnormal := d.exponent = 0
  let m := if subnormal then d.fraction else Nat.pow 2 52 + d.fraction
  let q : Int := (if subnormal then 1 else (d.exponent : Int)) - 1075
  let narrow := d.fraction == 0 && 1 < d.exponent
  let (digits, place) := shortest m q narrow
  (if d.negative then "-" else "") ++ layout.render digits place

end JoinGraph.Decimal
