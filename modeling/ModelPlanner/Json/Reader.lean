/-
**Reading JSON.**

The reader takes one value with blanks around it and nothing else. Blanks are spaces, tabs and line
ends. Objects and arrays have no comma behind their last element, numbers no leading zero and at least
one digit in every part, and strings no raw character below space.

Escapes of the form `\uXXXX` are units of UTF-16. A high surrogate and the low one right behind it
make one character; a string with any other surrogate is read, but its content is no text.
-/

import ModelPlanner.Json
import ModelPlanner.Text

namespace ModelPlanner.Json

/-! ### Blanks -/

/-- A list without the blanks it starts with. -/
def skip (cs : List Char) : List Char := cs.dropWhile Text.isSpace

/-! ### Strings -/

/-- The unit of four hexadecimal digits. -/
def unit? (a b c d : Char) : Option Nat := Text.hexNumber? [a, b, c, d]

/-- The code point of an escape with a letter of its own. -/
def shortEscape? (c : Char) : Option Nat :=
  if c = '"' ∨ c = '\\' ∨ c = '/' then some c.toNat
  else if c = 'b' then some 8
  else if c = 'f' then some 12
  else if c = 'n' then some 10
  else if c = 'r' then some 13
  else if c = 't' then some 9
  else none

/-- The code points and units of a string up to its closing quote, and what follows it. -/
def readUnits? : List Char → Option (List Nat × List Char)
  | [] => none
  | '"' :: rest => some ([], rest)
  | '\\' :: 'u' :: a :: b :: c :: d :: rest => do
    let unit ← unit? a b c d
    let (units, after) ← readUnits? rest
    return (unit :: units, after)
  | '\\' :: c :: rest => do
    let point ← shortEscape? c
    let (units, after) ← readUnits? rest
    return (point :: units, after)
  | c :: rest =>
    if c.toNat < 0x20 ∨ c = '\\' then none
    else do
      let (units, after) ← readUnits? rest
      return (c.toNat :: units, after)

/-- The text of code points and units, if every surrogate has its partner. -/
def textOfUnits? : List Nat → Option (List Char)
  | [] => some []
  | high :: low :: rest =>
    if 0xD800 ≤ high ∧ high < 0xDC00 then
      if 0xDC00 ≤ low ∧ low < 0xE000 then
        (textOfUnits? rest).map
          (Char.ofNat (0x10000 + (high - 0xD800) * 0x400 + (low - 0xDC00)) :: ·)
      else none
    else if 0xDC00 ≤ high ∧ high < 0xE000 then none
    else (textOfUnits? (low :: rest)).map (Char.ofNat high :: ·)
  | [point] => if 0xD800 ≤ point ∧ point < 0xE000 then none else some [Char.ofNat point]

/-- The content of a string behind its opening quote, and what follows it. -/
def readString? (cs : List Char) : Option (Option String × List Char) :=
  (readUnits? cs).map fun (units, after) => ((textOfUnits? units).map String.ofList, after)

/-! ### Numbers -/

/-- The digits that a list starts with, at least one, and what follows them. -/
def readDigits? (cs : List Char) : Option (List Char × List Char) :=
  let digits := cs.takeWhile Char.isDigit
  if digits.isEmpty then none else some (digits, cs.dropWhile Char.isDigit)

/-- The fraction that a list starts with, empty if there is none. -/
def readFraction? : List Char → Option (List Char × List Char)
  | '.' :: rest => (readDigits? rest).map fun (digits, after) => ('.' :: digits, after)
  | cs => some ([], cs)

/-- The sign of an exponent. -/
def readExponentSign : List Char → List Char × List Char
  | '+' :: rest => (['+'], rest)
  | '-' :: rest => (['-'], rest)
  | cs => ([], cs)

/-- The exponent that a list starts with, empty if there is none. -/
def readExponent? : List Char → Option (List Char × List Char)
  | [] => some ([], [])
  | mark :: rest =>
    if mark = 'e' ∨ mark = 'E' then
      let (sign, unsigned) := readExponentSign rest
      (readDigits? unsigned).map fun (digits, after) => (mark :: sign ++ digits, after)
    else some ([], mark :: rest)

/-- The number that a list starts with, and what follows it. -/
def readNumber? (cs : List Char) : Option (JsonNumber × List Char) := do
  let (negative, unsigned) := match cs with
    | '-' :: rest => (true, rest)
    | rest => (false, rest)
  let (digits, afterWhole) ← readDigits? unsigned
  if digits.head? = some '0' ∧ digits.length ≠ 1 then none
  else do
    let (fraction, afterFraction) ← readFraction? afterWhole
    let (exponent, after) ← readExponent? afterFraction
    return (⟨negative, Number.natOfDigits 0 digits, fraction ++ exponent⟩, after)

/-! ### Values -/

mutual

/-- The value that a list starts with behind blanks, and what follows it. A level of nesting takes a
character and two steps, so `fuel` twice as large as the list is enough. -/
def readValue? (fuel : Nat) (cs : List Char) : Option (Json × List Char) :=
  match fuel with
  | 0 => none
  | fuel + 1 =>
    match skip cs with
    | 'n' :: 'u' :: 'l' :: 'l' :: rest => some (.null, rest)
    | 't' :: 'r' :: 'u' :: 'e' :: rest => some (.bool true, rest)
    | 'f' :: 'a' :: 'l' :: 's' :: 'e' :: rest => some (.bool false, rest)
    | '"' :: rest => (readString? rest).map fun (content?, after) => (.string content?, after)
    | '[' :: rest =>
      match skip rest with
      | ']' :: after => some (.array [], after)
      | _ => (readItems? fuel rest).map fun (items, after) => (.array items, after)
    | '\x7b' :: rest =>
      match skip rest with
      | '\x7d' :: after => some (.object [], after)
      | _ => (readFields? fuel rest).map fun (fields, after) => (.object fields, after)
    | other => (readNumber? other).map fun (spelling, after) => (.number spelling, after)

/-- The items of an array up to its closing bracket, and what follows it. -/
def readItems? (fuel : Nat) (cs : List Char) : Option (List Json × List Char) :=
  match fuel with
  | 0 => none
  | fuel + 1 => do
    let (item, afterItem) ← readValue? fuel cs
    match skip afterItem with
    | ',' :: rest => (readItems? fuel rest).map fun (items, after) => (item :: items, after)
    | ']' :: after => some ([item], after)
    | _ => none

/-- The fields of an object up to its closing brace, and what follows it. -/
def readFields? (fuel : Nat) (cs : List Char) :
    Option (List (Option String × Json) × List Char) :=
  match fuel with
  | 0 => none
  | fuel + 1 =>
    match skip cs with
    | '"' :: afterQuote => do
      let (key, afterKey) ← readString? afterQuote
      match skip afterKey with
      | ':' :: afterColon => do
        let (value, afterValue) ← readValue? fuel afterColon
        match skip afterValue with
        | ',' :: rest =>
          (readFields? fuel rest).map fun (fields, after) => ((key, value) :: fields, after)
        | '\x7d' :: after => some ([(key, value)], after)
        | _ => none
      | _ => none
    | _ => none

end

/-- The value that a text holds. -/
def read? (text : String) : Option Json :=
  match readValue? (2 * text.length + 1) text.toList with
  | some (json, rest) => if (skip rest).isEmpty then some json else none
  | none => none

end ModelPlanner.Json
