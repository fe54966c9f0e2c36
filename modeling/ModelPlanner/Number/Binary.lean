/-
**Binary floating point formats.**

A format is given by its counts of fraction and exponent bits. `decode` reads a bit pattern as a
signed `significand * 2 ^ exponent`, an infinity or a NaN; `nearest` gives the pattern of the value
nearest to a quotient of natural numbers, the even pattern of two equally near ones, and infinity
when the quotient is too large. Both work in exact integer arithmetic.

The patterns of the nonnegative finite values are ordered as their values are, so rounding up past
the last significand of an exponent is a carry into the exponent field.
-/

namespace ModelPlanner.Number

/-! ### Powers

Formats scale by powers of two, decimal texts by powers of ten. `Nat.pow` is named here, since the power
operator stands for the power of a monoid wherever such an instance is in scope. -/

/-- Two to the power of a number. -/
def twoPow (exponent : Nat) : Nat := Nat.pow 2 exponent

/-- Ten to the power of a number. -/
def tenPow (exponent : Nat) : Nat := Nat.pow 10 exponent

/-! ### Formats -/

/-- A binary floating point format. -/
structure BinaryFormat where
  fractionBits : Nat
  exponentBits : Nat

/-- The format of 64 bits. -/
def binary64 : BinaryFormat := ⟨52, 11⟩

/-- The format of 32 bits. -/
def binary32 : BinaryFormat := ⟨23, 8⟩

/-- What a bit pattern stands for. -/
inductive BinaryDatum where
  | finite (negative : Bool) (significand : Nat) (exponent : Int)
  | infinite (negative : Bool)
  | nan
deriving Repr, DecidableEq

/-- The quotient rounded to the nearest integer, a tie to the even one. -/
def divNearestEven (num den : Nat) : Nat :=
  let floor := num / den
  let twice := 2 * (num % den)
  if twice < den then floor
  else if twice = den then floor + floor % 2
  else floor + 1

namespace BinaryFormat

variable (format : BinaryFormat)

/-- The exponent of the least positive value, which is also the least exponent. -/
def minExponent : Int := (2 : Int) - twoPow (format.exponentBits - 1) - format.fractionBits

/-- The pattern of positive infinity. -/
def infinity : Nat := (twoPow format.exponentBits - 1) * twoPow format.fractionBits

/-- The pattern of the sign bit alone. -/
def signBit : Nat := twoPow (format.fractionBits + format.exponentBits)

/-- The binary exponent of a positive quotient: the greatest `k` with `2 ^ k ≤ num / den`. -/
def floorLog2 (num den : Nat) : Int :=
  let guess : Int := (num.log2 : Int) - den.log2
  if den * twoPow guess.toNat ≤ num * twoPow (-guess).toNat then guess else guess - 1

/-- The pattern of the nonnegative value nearest to `num / den`, for `0 < den`. -/
def nearest (num den : Nat) : Nat :=
  if num = 0 then 0
  else
    let exponent := max (floorLog2 num den - format.fractionBits) format.minExponent
    let significand := divNearestEven (num * twoPow (-exponent).toNat) (den * twoPow exponent.toNat)
    min ((exponent - format.minExponent).toNat * twoPow format.fractionBits + significand)
      format.infinity

/-- What a bit pattern of the format stands for. -/
def decode (bits : Nat) : BinaryDatum :=
  let negative := bits / format.signBit % 2 == 1
  let magnitude := bits % format.signBit
  let field := magnitude / twoPow format.fractionBits
  let fraction := magnitude % twoPow format.fractionBits
  if format.infinity < magnitude then .nan
  else if magnitude = format.infinity then .infinite negative
  else if field = 0 then .finite negative fraction format.minExponent
  else .finite negative (fraction + twoPow format.fractionBits) (format.minExponent + field - 1)

/-- The pattern nearest to a datum. -/
def encode : BinaryDatum → Nat
  | .finite negative significand exponent =>
    (if negative then format.signBit else 0) +
      format.nearest (significand * twoPow exponent.toNat) (twoPow (-exponent).toNat)
  | .infinite negative => (if negative then format.signBit else 0) + format.infinity
  | .nan => format.infinity + twoPow (format.fractionBits - 1)

end BinaryFormat

end ModelPlanner.Number
