/-
**JSON values and their text.**

A JSON value keeps what reading it can tell: the fields of an object in their order, repeated keys
included, and numbers as they are spelled. A string holds a text, or nothing when its escapes contain
a surrogate without partner, which no text can hold.

`pretty` writes a value over several lines, two spaces per level, empty arrays and objects in one
piece. In strings, quotes, backslashes and the characters below space are escaped.
-/

import ModelPlanner.Number.Decimal

namespace ModelPlanner

/-- A number as it is spelled: its sign, its whole part, and its fraction and exponent. -/
structure JsonNumber where
  negative : Bool
  whole : Nat
  tail : List Char
deriving Repr, DecidableEq

/-- The characters of a number. -/
def JsonNumber.chars (number : JsonNumber) : List Char :=
  (if number.negative then ['-'] else []) ++ Number.digitsOfNat number.whole ++ number.tail

/-- A JSON value. -/
inductive Json where
  | null
  | bool (truth : Bool)
  | number (spelling : JsonNumber)
  | string (content? : Option String)
  | array (items : List Json)
  | object (fields : List (Option String × Json))

namespace Json

/-- The number that a natural number is spelled as. -/
def ofNat (n : Nat) : Json := .number ⟨false, n, []⟩

/-- A string with a text. -/
def text (content : String) : Json := .string (some content)

/-- An object whose keys are texts, without the fields that are absent. -/
def ofFields (fields : List (String × Option Json)) : Json :=
  .object (fields.filterMap fun (key, value?) => value?.map (some key, ·))

/-! ### Text -/

/-- A hexadecimal digit below sixteen, letters in lower case. -/
def hexDigit (n : Nat) : Char :=
  if n < 10 then Char.ofNat ('0'.toNat + n) else Char.ofNat ('a'.toNat + (n - 10))

/-- A character of a string as it is written. -/
def escape (c : Char) : List Char :=
  if c = '"' then ['\\', '"']
  else if c = '\\' then ['\\', '\\']
  else if c = '\x08' then ['\\', 'b']
  else if c = '\x0c' then ['\\', 'f']
  else if c = '\n' then ['\\', 'n']
  else if c = '\r' then ['\\', 'r']
  else if c = '\t' then ['\\', 't']
  else if c.toNat < 0x20 then
    ['\\', 'u', '0', '0', hexDigit (c.toNat / 16), hexDigit (c.toNat % 16)]
  else [c]

/-- A quoted string; a surrogate without partner stands for content that is no text. -/
def quote (content? : Option String) : List Char :=
  match content? with
  | some content => '"' :: content.toList.flatMap escape ++ ['"']
  | none => "\"\\ud800\"".toList

/-- The start of a line at a level. -/
def newline (level : Nat) : List Char := '\n' :: List.replicate (2 * level) ' '

mutual

/-- The characters of a value whose last line stands at a level. -/
def pretty (level : Nat) : Json → List Char
  | .null => "null".toList
  | .bool truth => if truth then "true".toList else "false".toList
  | .number spelling => spelling.chars
  | .string content? => quote content?
  | .array [] => ['[', ']']
  | .array (item :: rest) =>
    '[' :: newline (level + 1) ++ item.pretty (level + 1) ++ prettyItems level rest
  | .object [] => ['\x7b', '\x7d']
  | .object ((key, value) :: rest) =>
    '\x7b' :: newline (level + 1) ++ quote key ++ ':' :: ' ' :: value.pretty (level + 1)
      ++ prettyFields level rest

/-- The characters of the further items of an array up to its closing bracket. -/
def prettyItems (level : Nat) : List Json → List Char
  | [] => newline level ++ [']']
  | item :: rest => ',' :: newline (level + 1) ++ item.pretty (level + 1) ++ prettyItems level rest

/-- The characters of the further fields of an object up to its closing brace. -/
def prettyFields (level : Nat) : List (Option String × Json) → List Char
  | [] => newline level ++ ['\x7d']
  | (key, value) :: rest =>
    ',' :: newline (level + 1) ++ quote key ++ ':' :: ' ' :: value.pretty (level + 1)
      ++ prettyFields level rest

end

/-- The text of a value. -/
def write (json : Json) : String := String.ofList (json.pretty 0)

end Json

end ModelPlanner
