/-
**Decimal texts of floating point values.**

Reading: an optional sign, digits with at most one point and at least one digit, and an optional
exponent `e` or `E` with an optional sign and at least one digit. The value is the one nearest to the
decimal, computed exactly.

Writing: `DecimalLayout` holds every decision of the format; `DecimalLayout.text` applies it to the
shortest digits that read back.
-/

import ModelPlanner.Number.Shortest

namespace ModelPlanner.Number

/-! ### Digits -/

/-- The value of a decimal digit. -/
def digitValue (c : Char) : Nat := c.toNat - '0'.toNat

/-- The natural number that a list of decimal digits spells, continued from what stands before. -/
def natOfDigits (before : Nat) (digits : List Char) : Nat :=
  digits.foldl (fun n c => 10 * n + digitValue c) before

/-- The decimal digits of a natural number. -/
def digitsOfNat (n : Nat) : List Char := Nat.toDigits 10 n

/-! ### Reading -/

/-- A sign that may be absent, and what follows it. -/
def readSign : List Char → Bool × List Char
  | '-' :: rest => (true, rest)
  | '+' :: rest => (false, rest)
  | rest => (false, rest)

/-- The exponent part of a decimal text: nothing, or a mark, a sign and digits up to the end. -/
def readExponent? : List Char → Option Int
  | [] => some 0
  | mark :: rest =>
    if mark == 'e' || mark == 'E' then
      let (negative, digits) := readSign rest
      if digits.isEmpty || !digits.all Char.isDigit then none
      else
        let size : Int := natOfDigits 0 digits
        some (if negative then -size else size)
    else none

/-- The pattern of 64 bits nearest to `digits * 10 ^ exponent`, where at most `count` digits spell
the coefficient. Decimals far outside the range of the format are settled by their size alone, so
that no power of ten grows with the exponent. -/
def nearestDecimal (digits count : Nat) (exponent : Int) : Nat :=
  if digits = 0 || exponent + count < -400 then 0
  else if 400 < exponent then binary64.infinity
  else binary64.nearest (digits * tenPow exponent.toNat) (tenPow (-exponent).toNat)

/-- The 64-bit pattern of the value nearest to a decimal text. -/
def readDecimal? (text : List Char) : Option UInt64 := do
  let (negative, unsigned) := readSign text
  let whole := unsigned.takeWhile Char.isDigit
  let afterWhole := unsigned.dropWhile Char.isDigit
  let (fraction, tail) := match afterWhole with
    | '.' :: rest => (rest.takeWhile Char.isDigit, rest.dropWhile Char.isDigit)
    | rest => ([], rest)
  if whole.isEmpty && fraction.isEmpty then none
  else do
    let exponent ← readExponent? tail
    let digits := natOfDigits (natOfDigits 0 whole) fraction
    let magnitude := nearestDecimal digits (whole.length + fraction.length)
      (exponent - fraction.length)
    some (UInt64.ofNat ((if negative then binary64.signBit else 0) + magnitude))

/-! ### Writing -/

/-- The decisions of a decimal format: the decimal exponents that are written positionally, the
mark of the others, and the texts of the values that have no digits. -/
structure DecimalLayout where
  leastPositional : Int
  greatestPositional : Int
  exponentMark : Char
  infinite : String
  nan : String

namespace DecimalLayout

/-- Digits with a point after `place` of them, filled up with zeros; a whole number gets `.0`. -/
def positional (digits : List Char) (place : Int) : List Char :=
  if place ≤ 0 then '0' :: '.' :: List.replicate (-place).toNat '0' ++ digits
  else if digits.length ≤ place.toNat then
    digits ++ List.replicate (place.toNat - digits.length) '0' ++ ['.', '0']
  else digits.take place.toNat ++ '.' :: digits.drop place.toNat

/-- The decimal digits of an integer behind its sign, if it is negative. -/
def signed (n : Int) : List Char :=
  if n < 0 then '-' :: digitsOfNat n.natAbs else digitsOfNat n.natAbs

/-- One digit, the others behind a point if there are any, and the exponent. -/
def scientific (layout : DecimalLayout) (digits : List Char) (exponent : Int) : List Char :=
  let head := match digits with
    | first :: second :: rest => first :: '.' :: second :: rest
    | short => short
  head ++ layout.exponentMark :: signed exponent

/-- The text of a decimal that is not zero. -/
def decimal (layout : DecimalLayout) (value : Decimal) : List Char :=
  let digits := digitsOfNat value.digits
  let place : Int := digits.length + value.exponent
  let exponent := place - 1
  let significant := (digits.reverse.dropWhile (· == '0')).reverse
  if layout.leastPositional ≤ exponent && exponent ≤ layout.greatestPositional then
    positional significant place
  else layout.scientific significant exponent

/-- The text of a 64-bit pattern. -/
def text (layout : DecimalLayout) (bits : UInt64) : String :=
  match binary64.decode bits.toNat with
  | .nan => layout.nan
  | .infinite negative => (if negative then "-" else "") ++ layout.infinite
  | .finite negative significand exponent =>
    let magnitude :=
      if significand = 0 then ['0', '.', '0'] else layout.decimal (shortest significand exponent)
    String.ofList (if negative then '-' :: magnitude else magnitude)

end DecimalLayout

end ModelPlanner.Number
