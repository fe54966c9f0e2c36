/-
**The tokens of a type reference.**

A token is a word of ASCII letters, digits, underscores and dollar signs that starts with no digit,
one of the marks `.`, `...`, `<`, `>`, `,`, `[`, `]`, `?`, or one of the two words `extends` and
`super`, which are no identifiers. The scan skips spaces, tabs and line ends, takes the longest token
at each place and gives every token with its offset. It stops with the offset of the first character
at which no token starts.

All characters of a token and all skipped ones are single bytes, so offsets count bytes although the
scan counts characters.
-/

import ModelPlanner.Text

namespace ModelPlanner

/-- A token of a type reference. -/
inductive TypeToken where
  | identifier (word : List Char)
  | extendsWord
  | superWord
  | dot
  | ellipsis
  | less
  | greater
  | comma
  | openBracket
  | closeBracket
  | question
deriving Repr, DecidableEq

namespace TypeToken

/-- Whether a character may start a word. -/
def isWordStart (c : Char) : Bool := c.isAlpha || c == '_' || c == '$'

/-- Whether a character may continue a word. -/
def isWordPart (c : Char) : Bool := isWordStart c || c.isDigit

/-- The token that a word is. -/
def ofWord (word : List Char) : TypeToken :=
  if word = "extends".toList then .extendsWord
  else if word = "super".toList then .superWord
  else .identifier word

/-- The characters of a token. -/
def chars : TypeToken → List Char
  | .identifier word => word
  | .extendsWord => "extends".toList
  | .superWord => "super".toList
  | .dot => ['.']
  | .ellipsis => ['.', '.', '.']
  | .less => ['<']
  | .greater => ['>']
  | .comma => [',']
  | .openBracket => ['[']
  | .closeBracket => [']']
  | .question => ['?']

/-- The longest token that a list of characters starts with, and the characters after it. -/
def first? : List Char → Option (TypeToken × List Char)
  | [] => none
  | '.' :: '.' :: '.' :: rest => some (.ellipsis, rest)
  | '.' :: rest => some (.dot, rest)
  | '<' :: rest => some (.less, rest)
  | '>' :: rest => some (.greater, rest)
  | ',' :: rest => some (.comma, rest)
  | '[' :: rest => some (.openBracket, rest)
  | ']' :: rest => some (.closeBracket, rest)
  | '?' :: rest => some (.question, rest)
  | c :: rest =>
    if isWordStart c then
      some (ofWord (c :: rest.takeWhile isWordPart), rest.dropWhile isWordPart)
    else none

/-- A token takes at least one character. -/
theorem length_of_first? {cs rest : List Char} {token : TypeToken}
    (found : first? cs = some (token, rest)) : rest.length < cs.length := by
  unfold first? at found
  split at found
  case h_10 c tail _ _ _ _ _ _ _ _ =>
    split at found
    · simp only [Option.some.injEq, Prod.mk.injEq] at found
      have dropped := (List.dropWhile_suffix (l := tail) isWordPart).length_le
      rw [← found.2, List.length_cons]
      omega
    · cases found
  all_goals
    simp only [Option.some.injEq, Prod.mk.injEq, reduceCtorEq] at found
    try rw [← found.2]
    try simp only [List.length_cons]
    try omega

/-- A token with the offset at which it starts. -/
structure Placed where
  token : TypeToken
  offset : Nat
deriving Repr, DecidableEq

/-- The tokens of a list of characters that starts at an offset, or the offset of the first
character at which no token starts. -/
def scan (offset : Nat) (cs : List Char) : Except Nat (List Placed) :=
  match cs with
  | [] => .ok []
  | c :: tail =>
    if Text.isSpace c then scan (offset + 1) tail
    else
      match _found : first? (c :: tail) with
      | none => .error offset
      | some (token, rest) =>
        (scan (offset + token.chars.length) rest).map (⟨token, offset⟩ :: ·)
termination_by cs.length
decreasing_by
  · simp
  · exact length_of_first? ‹_›

end TypeToken

end ModelPlanner
