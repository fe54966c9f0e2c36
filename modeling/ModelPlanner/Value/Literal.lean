/-
**Reading default expressions.**

`Value.ofLiteral` interprets a trimmed piece of code: `null`, `true`, `false`, a quoted text, a quoted
character, an integer of 64 bits in decimal or hexadecimal digits, or a floating point number. Any
other code stays an uninterpreted expression.

* A text in double quotes is taken between its outer quotes, whatever stands between them; a
  backslash gives the next character a meaning of its own (`n`, `t`, `r`, `0`) or takes it as it is,
  and stands for itself at the end.
* An integer may have underscores anywhere and one `L` or `l` at its end.
* A floating point number may have any of `f`, `F`, `d`, `D` at its end and has at least one digit.
-/

import ModelPlanner.Value

namespace ModelPlanner.Value

/-! ### Quoted code -/

/-- The character that a backslash makes of the one behind it. -/
def escaped (c : Char) : Char :=
  if c = 'n' then '\n'
  else if c = 't' then '\t'
  else if c = 'r' then '\r'
  else if c = '0' then '\x00'
  else c

/-- Quoted characters with their escapes replaced. -/
def unescape : List Char → List Char
  | [] => []
  | '\\' :: c :: rest => escaped c :: unescape rest
  | c :: rest => c :: unescape rest

/-- The one character between single quotes. -/
def readCharacter? (code : List Char) : Option Char :=
  match (Text.between? '\'' code).map unescape with
  | some [c] => some c
  | _ => none

/-! ### Numbers -/

export Text (hexDigitValue)

/-- A number as an integer of 64 bits, if it is in range. -/
def int64? (number : Int) : Option Int64 :=
  if Int64.minValue.toInt ≤ number ∧ number ≤ Int64.maxValue.toInt then some (Int64.ofInt number)
  else none

/-- The number behind the mark of hexadecimal digits, which has a sign of its own. -/
def readHex? (code : List Char) : Option Int64 :=
  let (negative, digits) := Number.readSign code
  if digits.isEmpty then none
  else
    (Text.hexNumber? digits).bind fun size =>
      int64? (if negative then -(size : Int) else size)

/-- The number without sign, suffix and underscores. -/
def readMagnitude? : List Char → Option Int64
  | '0' :: 'x' :: rest | '0' :: 'X' :: rest => readHex? rest
  | digits =>
    if digits.isEmpty || !digits.all Char.isDigit then none
    else int64? (Number.natOfDigits 0 digits)

/-- A list without one suffix of long integers. -/
def dropLongSuffix (code : List Char) : List Char :=
  if code.getLast? = some 'L' ∨ code.getLast? = some 'l' then code.dropLast else code

/-- The integer that code spells. The magnitude is read first and then negated, so the least integer
of 64 bits has no spelling here. -/
def readInt? (code : List Char) : Option Int64 :=
  match (dropLongSuffix code).filter (· != '_') with
  | '-' :: digits => (readMagnitude? digits).map (- ·)
  | digits => readMagnitude? digits

/-- Whether a character may close a floating point number. -/
def isFloatSuffix (c : Char) : Bool := c == 'f' || c == 'F' || c == 'd' || c == 'D'

/-- The floating point pattern that code spells. -/
def readFloat? (code : List Char) : Option UInt64 :=
  let number := (code.reverse.dropWhile isFloatSuffix).reverse
  if number.any Char.isDigit then Number.readDecimal? number else none

/-! ### Literals -/

/-- The value of trimmed code. -/
def ofTrimmed (code : List Char) : Value :=
  if code = "null".toList then .null
  else if code = "true".toList then .bool true
  else if code = "false".toList then .bool false
  else if let some inner := Text.between? '"' code then .str (String.ofList (unescape inner))
  else if let some c := readCharacter? code then .int (Int64.ofNat c.toNat)
  else if let some number := readInt? code then .int number
  else if let some bits := readFloat? code then .float bits
  else .expression (String.ofList code)

/-- The value of a default expression. -/
def ofLiteral (code : String) : Value := ofTrimmed (Text.trimList code.toList)

/-- Blanks around code that neither starts nor ends with one change nothing of its value. -/
theorem ofLiteral_surrounded {before code after : List Char}
    (blank : ∀ c ∈ before ++ after, Text.isBlank c = true)
    (solidStart : ∀ c ∈ code.head?, Text.isBlank c = false)
    (solidEnd : ∀ c ∈ code.getLast?, Text.isBlank c = false) :
    ofLiteral (String.ofList (before ++ code ++ after)) = ofTrimmed code := by
  obtain ⟨blankBefore, blankAfter⟩ := List.forall_mem_append.mp blank
  rw [ofLiteral, String.toList_ofList, Text.trimList_surrounded code blankBefore blankAfter,
    Text.trim_eq_self solidStart solidEnd]

end ModelPlanner.Value
