/-
**Attribute values.**

A value is absent, a truth value, an integer of 64 bits, a floating point pattern of 64 bits, a text,
a callback with an identity, or an expression that stays uninterpreted. Two values are equal when
they are of one kind and hold the same, floating point patterns bit by bit.

* `fits` tells which values an attribute of a type can hold: anything for a reference type, values of
  its family and expressions for a primitive one;
* `hash` is what a value contributes to the hash of an instance, in wrapping arithmetic of 32 bits.
-/

import ModelPlanner.Number.Decimal
import ModelPlanner.Text
import ModelPlanner.TypeName.Basic

namespace ModelPlanner

/-- A value that an attribute can hold. -/
inductive Value where
  | null
  | bool (truth : Bool)
  | int (number : Int64)
  | float (bits : UInt64)
  | str (text : String)
  | callback (identity : UInt64)
  | expression (code : String)
deriving Repr, DecidableEq

instance : Inhabited Value := ⟨.null⟩

namespace Value

/-- Whether the value is absent. -/
def isNull : Value → Bool
  | .null => true
  | _ => false

/-- The kind of a value in words. -/
def kind : Value → String
  | .null => "null"
  | .bool _ => "boolean"
  | .int _ => "integer"
  | .float _ => "floating point"
  | .str _ => "string"
  | .callback _ => "callback"
  | .expression _ => "expression"

/-! ### Text -/

/-- Floating point values from `0.0001` up to `1e16` are written positionally. -/
def floatLayout : Number.DecimalLayout :=
  { leastPositional := -4
    greatestPositional := 15
    exponentMark := 'e'
    infinite := "inf"
    nan := "NaN" }

/-- The text of a value. -/
def text : Value → String
  | .null => "null"
  | .bool truth => if truth then "true" else "false"
  | .int number => String.ofList (Number.DecimalLayout.signed number.toInt)
  | .float bits => floatLayout.text bits
  | .str text | .expression text => text
  | .callback identity => "Callback@" ++ String.ofList (Nat.toDigits 16 identity.toNat)

/-! ### Types -/

/-- Whether an attribute of a type can hold the value. -/
def fits (value : Value) (type : TypeName) : Bool :=
  if !type.isPrimitive then true
  else
    match value with
    | .expression _ => true
    | .bool _ => type.name == "boolean"
    | .float _ => type.name == "float" || type.name == "double"
    | .int _ => type.name != "boolean"
    | _ => false

/-! ### Hash -/

/-- The two halves of a pattern of 64 bits, combined by exclusive or. -/
def foldHalves (bits : UInt64) : Int32 := (bits ^^^ (bits >>> 32)).toUInt32.toInt32

/-- Whether a type is that of long integers. -/
def isLong (type : TypeName) : Bool := type.isNamed "long" || type.isNamed "java.lang.Long"

/-- Whether a type is that of floating point values of 32 bits. -/
def isFloat (type : TypeName) : Bool := type.isNamed "float" || type.isNamed "java.lang.Float"

/-- Whether a type is that of floating point values of 64 bits. -/
def isDouble (type : TypeName) : Bool := type.isNamed "double" || type.isNamed "java.lang.Double"

/-- An integer as a floating point datum. -/
def datumOfInt (number : Int64) : Number.BinaryDatum :=
  .finite (number < 0) number.toInt.natAbs 0

/-- The pattern of 32 bits nearest to a datum, as a hash; both zeros of a primitive type hash to 0. -/
def hashFloat (primitive : Bool) (datum : Number.BinaryDatum) : Int32 :=
  let bits := Number.binary32.encode datum
  if primitive && bits % Number.binary32.signBit == 0 then 0 else Int32.ofNat bits

/-- What a value contributes to the hash as the value of an attribute of a type. -/
def hash (value : Value) (type : TypeName) : Int32 :=
  match value with
  | .null => 0
  | .bool truth =>
    if type.isPrimitive then (if truth then 1 else 0) else (if truth then 1231 else 1237)
  | .int number =>
    if isLong type then foldHalves number.toUInt64
    else if isFloat type then hashFloat type.isPrimitive (datumOfInt number)
    else if isDouble type then
      foldHalves (UInt64.ofNat (Number.binary64.encode (datumOfInt number)))
    else number.toInt32
  | .float bits =>
    if isFloat type then hashFloat type.isPrimitive (Number.binary64.decode bits.toNat)
    else foldHalves bits
  | .str text | .expression text => Text.hash text
  | .callback identity => foldHalves identity

end Value

end ModelPlanner
