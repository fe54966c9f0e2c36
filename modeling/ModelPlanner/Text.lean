/-
**Texts and their characters.**

A character is blank when it has the Unicode property `White_Space`. Trimming removes the longest
blank run at each end of a text and nothing else:

* `trim_eq_self`: a list that neither starts nor ends with a blank is its own trim;
* `trimList_surrounded`: blank runs around a list change nothing of its trim.

Texts that are read token by token are separated by four of the blanks only, and numbers in them may
have hexadecimal digits of either case. `pieces` cuts a list at every separator, so that a list with `n`
separators has `n + 1` pieces.

A character up to `U+FFFF` is one unit of UTF-16; a character above it is a high and a low surrogate.
The hash of a text is the polynomial of its units in 31, first unit highest, in wrapping arithmetic of
32 bits:

* `unitsOf_append`, `hashUnits_append`: how both behave on a text made of two parts.
-/

namespace ModelPlanner.Text

/-! ### Blanks -/

/-- The inclusive code point ranges of the property `White_Space`. -/
def blankRanges : List (Nat × Nat) :=
  [(0x9, 0xD), (0x20, 0x20), (0x85, 0x85), (0xA0, 0xA0), (0x1680, 0x1680), (0x2000, 0x200A),
   (0x2028, 0x2029), (0x202F, 0x202F), (0x205F, 0x205F), (0x3000, 0x3000)]

/-- Whether a code point lies in one of the inclusive ranges. -/
def inRanges (ranges : List (Nat × Nat)) (point : Nat) : Bool :=
  ranges.any fun range => range.1 ≤ point && point ≤ range.2

/-- Whether a character has the property `White_Space`. -/
def isBlank (c : Char) : Bool := inRanges blankRanges c.toNat

/-- A list without the blanks it starts with. -/
def trimStart (cs : List Char) : List Char := cs.dropWhile isBlank

/-- A list without the blanks it ends with. -/
def trimEnd (cs : List Char) : List Char := (trimStart cs.reverse).reverse

/-- A list without the blanks at its two ends. -/
def trimList (cs : List Char) : List Char := trimEnd (trimStart cs)

/-- A text without the blanks at its two ends. -/
def trim (text : String) : String := String.ofList (trimList text.toList)

/-- Whether a text holds blanks only. -/
def isBlankText (text : String) : Bool := (trim text).isEmpty

/-! ### What trimming keeps -/

/-- A list that does not start with a blank loses nothing in front. -/
theorem trimStart_eq_self {cs : List Char} (solid : ∀ c ∈ cs.head?, isBlank c = false) :
    trimStart cs = cs := by
  cases cs with
  | nil => rfl
  | cons c rest => simp [trimStart, solid c (by simp)]

/-- A list that neither starts nor ends with a blank is its own trim. -/
theorem trim_eq_self {cs : List Char} (solidStart : ∀ c ∈ cs.head?, isBlank c = false)
    (solidEnd : ∀ c ∈ cs.getLast?, isBlank c = false) : trimList cs = cs := by
  rw [trimList, trimStart_eq_self solidStart, trimEnd,
    trimStart_eq_self (by simpa using solidEnd), List.reverse_reverse]

/-- Blanks in front change nothing. -/
theorem trimStart_append {before cs : List Char} (blank : ∀ c ∈ before, isBlank c = true) :
    trimStart (before ++ cs) = trimStart cs :=
  List.dropWhile_append_of_pos blank

/-- Blanks at the end change nothing. -/
theorem trimEnd_append {cs after : List Char} (blank : ∀ c ∈ after, isBlank c = true) :
    trimEnd (cs ++ after) = trimEnd cs := by
  rw [trimEnd, List.reverse_append, trimStart_append (by simpa using blank), trimEnd]

/-- Blanks around a list change nothing of its trim. -/
theorem trimList_surrounded {before after : List Char} (cs : List Char)
    (blankBefore : ∀ c ∈ before, isBlank c = true) (blankAfter : ∀ c ∈ after, isBlank c = true) :
    trimList (before ++ cs ++ after) = trimList cs := by
  rw [trimList, List.append_assoc, trimStart_append blankBefore, trimStart, List.dropWhile_append]
  split
  · next empty =>
    have none : trimStart cs = [] := List.isEmpty_iff.mp empty
    have allBlank : trimStart (after ++ []) = [] := trimStart_append blankAfter
    rw [List.append_nil] at allBlank
    rw [trimList, none, show after.dropWhile isBlank = [] from allBlank]
  · exact trimEnd_append blankAfter

/-! ### Spaces and hexadecimal digits -/

/-- Whether a character may stand between tokens: a space, a tab or the end of a line. -/
def isSpace (c : Char) : Bool := c == ' ' || c == '\t' || c == '\n' || c == '\r'

/-- Whether a character is a hexadecimal digit. -/
def isHexDigit (c : Char) : Bool :=
  c.isDigit || ('a' ≤ c && c ≤ 'f') || ('A' ≤ c && c ≤ 'F')

/-- The value of a hexadecimal digit. -/
def hexDigitValue (c : Char) : Nat :=
  if c.isDigit then c.toNat - '0'.toNat
  else if 'a' ≤ c then c.toNat - 'a'.toNat + 10
  else c.toNat - 'A'.toNat + 10

/-- The number that hexadecimal digits spell. -/
def hexNumber? (digits : List Char) : Option Nat :=
  if digits.all isHexDigit then some (digits.foldl (fun n c => 16 * n + hexDigitValue c) 0) else none

/-! ### Cutting -/

/-- The parts of a list between separators. -/
def pieces (separator : Char) : List Char → List (List Char)
  | [] => [[]]
  | c :: rest =>
    if c = separator then [] :: pieces separator rest
    else
      match pieces separator rest with
      | [] => [[c]]
      | piece :: others => (c :: piece) :: others

/-- What stands between a quote at the start and another one at the end. -/
def between? (quote : Char) : List Char → Option (List Char)
  | [] => none
  | first :: rest =>
    if first = quote ∧ rest.getLast? = some quote then some rest.dropLast else none

/-- A text without a given end, if it ends so. -/
def dropSuffix? (text suffix : String) : Option String :=
  if suffix.toList.isSuffixOf text.toList then
    some (String.ofList (text.toList.take (text.length - suffix.length)))
  else none

/-! ### UTF-16 units and the polynomial hash -/

/-- The UTF-16 units of a character. -/
def charUnits (c : Char) : List Nat :=
  let point := c.toNat
  if point < 0x10000 then [point]
  else [0xD800 + (point - 0x10000) / 0x400, 0xDC00 + (point - 0x10000) % 0x400]

/-- The UTF-16 units of a text. -/
def unitsOf (text : String) : List Nat := text.toList.flatMap charUnits

/-- The wrapping polynomial in 31 of a list of units, continued from the hash of what stands before. -/
def hashUnits (before : Int32) (units : List Nat) : Int32 :=
  units.foldl (fun hash unit => hash * 31 + Int32.ofNat unit) before

/-- The polynomial hash of a text. -/
def hash (text : String) : Int32 := hashUnits 0 (unitsOf text)

/-! ### Texts made of two parts -/

/-- The units of a text are those of its parts, in order. -/
@[simp]
theorem unitsOf_append (first second : String) :
    unitsOf (first ++ second) = unitsOf first ++ unitsOf second := by
  simp [unitsOf]

/-- The hash of a list of units continues the hash of its first part. -/
@[simp]
theorem hashUnits_append (before : Int32) (first second : List Nat) :
    hashUnits before (first ++ second) = hashUnits (hashUnits before first) second := by
  simp [hashUnits]

end ModelPlanner.Text
