/-
**The shortest decimal that reads back.**

A finite positive value owns the interval of reals that round to it, ends included exactly when its
significand is even. `shortest` searches the decimal grids from one digit to seventeen and takes the
first grid on which a neighbour of the value lies in the interval; of two such neighbours it takes
the nearer one, and the larger one on a tie. Seventeen digits always suffice for 64 bits.

All comparisons are exact: a point of the grid and an end of the interval are brought to a common
denominator.
-/

import ModelPlanner.Number.Binary

namespace ModelPlanner.Number

/-- A natural number scaled by powers of two and ten. -/
structure Scaled where
  coefficient : Nat
  twos : Int
  tens : Int

/-- Two scaled numbers brought to a common denominator. -/
def Scaled.common (first second : Scaled) : Nat × Nat :=
  let twos := min first.twos second.twos
  let tens := min first.tens second.tens
  (first.coefficient * twoPow (first.twos - twos).toNat * tenPow (first.tens - tens).toNat,
    second.coefficient * twoPow (second.twos - twos).toNat * tenPow (second.tens - tens).toNat)

/-- The reals that round to a value, in units of a quarter of its last binary place. -/
structure RoundingInterval where
  value : Nat
  low : Nat
  high : Nat
  exponent : Int
  endsIncluded : Bool

/-- The interval of a positive value of a format; below a power of two the gap is half as wide. -/
def BinaryFormat.interval (format : BinaryFormat) (significand : Nat) (exponent : Int) :
    RoundingInterval :=
  let narrow := significand == twoPow format.fractionBits && exponent != format.minExponent
  { value := 4 * significand
    low := 4 * significand - (if narrow then 1 else 2)
    high := 4 * significand + 2
    exponent := exponent - 2
    endsIncluded := significand % 2 == 0 }

/-- Whether `digits * 10 ^ grid` lies in the interval. -/
def RoundingInterval.holds (interval : RoundingInterval) (digits : Nat) (grid : Int) : Bool :=
  let point : Scaled := ⟨digits, 0, grid⟩
  let (low, fromLow) := Scaled.common ⟨interval.low, interval.exponent, 0⟩ point
  let (high, fromHigh) := Scaled.common ⟨interval.high, interval.exponent, 0⟩ point
  if interval.endsIncluded then low ≤ fromLow && fromHigh ≤ high
  else low < fromLow && fromHigh < high

/-- The neighbour of the value on a decimal grid that lies in the interval, if there is one: the
nearer of two, the upper one on a tie. -/
def RoundingInterval.neighbour? (interval : RoundingInterval) (grid : Int) : Option Nat :=
  let (value, unit) := Scaled.common ⟨interval.value, interval.exponent, 0⟩ ⟨1, 0, grid⟩
  let below := value / unit
  let above := below + 1
  match interval.holds below grid && below != 0, interval.holds above grid with
  | true, true => some (if 2 * (value % unit) < unit then below else above)
  | true, false => some below
  | false, true => some above
  | false, false => none

/-- The count of decimal digits of a natural number, zero for zero. -/
def digitCount (n : Nat) : Nat := if n = 0 then 0 else (Nat.toDigits 10 n).length

/-- The least `k` with `num / den < 10 ^ k`, for a positive quotient. -/
def decimalPoint (num den : Nat) : Int :=
  if den ≤ num then digitCount (num / den)
  else 1 - digitCount ((den + num - 1) / num - 1)

/-- A decimal `digits * 10 ^ exponent`. -/
structure Decimal where
  digits : Nat
  exponent : Int
deriving Repr, DecidableEq

/-- The shortest decimal in an interval whose value stands before the `point`-th decimal place,
trying grids of `count` digits and more. -/
def RoundingInterval.search (interval : RoundingInterval) (point : Int) :
    (fuel count : Nat) → Decimal
  | 0, count => ⟨interval.value, point - count⟩
  | fuel + 1, count =>
    match interval.neighbour? (point - count) with
    | some digits => ⟨digits, point - count⟩
    | none => interval.search point fuel (count + 1)

/-- The shortest decimal that reads back as a positive value of 64 bits. -/
def shortest (significand : Nat) (exponent : Int) : Decimal :=
  let point := decimalPoint (significand * twoPow exponent.toNat) (twoPow (-exponent).toNat)
  (binary64.interval significand exponent).search point 17 1

end ModelPlanner.Number
