/-
**Reading type references.**

    Type ::= Identifier ('.' Identifier)* [ '<' Arg (',' Arg)* '>' ] ('[' ']')* [ '...' ]
    Arg  ::= Type | '?' | '?' 'extends' Type | '?' 'super' Type

The whole text is scanned before it is read, so a character at which no token starts wins over every
other error. A dot belongs to a name only when an identifier follows it. Three dots are one more
dimension and end the type. An error names what was expected and the offset of the token that stands
there instead, or the length of the text at its end.
-/

import ModelPlanner.TypeName.Basic
import ModelPlanner.TypeName.Token

namespace ModelPlanner.TypeName

open TypeToken (Placed)

/-! ### Errors -/

/-- What a type reference was missing. -/
inductive Expectation where
  | typeName
  | closingBracket
  | commaOrGreater
deriving Repr, DecidableEq

/-- An expectation as it is worded in an error. -/
def Expectation.text : Expectation → String
  | .typeName => "a type name"
  | .closingBracket => "`]`"
  | .commaOrGreater => "`,` or `>`"

/-- Why a text is no type reference. -/
inductive ParseError where
  | empty
  | unexpectedCharacter (input : String) (offset : Nat)
  | expected (what : Expectation) (input : String) (offset : Nat)
  | trailing (input : String) (offset : Nat)
deriving Repr, DecidableEq

/-- The wording of a parse error. -/
def ParseError.message : ParseError → String
  | .empty => "empty type name"
  | .unexpectedCharacter input offset =>
    s!"unexpected character at offset {offset} in `" ++ input ++ "`"
  | .expected what input offset =>
    "expected " ++ what.text ++ s!" at offset {offset} in `" ++ input ++ "`"
  | .trailing input offset =>
    s!"unexpected trailing input at offset {offset} in `" ++ input ++ "`"

/-! ### The parser -/

/-- An expectation and the offset of the token that fails it, absent at the end of the text. -/
structure Failure where
  what : Expectation
  offset? : Option Nat
deriving Repr, DecidableEq

/-- The offset of the first token. -/
def offsetOf? (tokens : List Placed) : Option Nat := tokens.head?.map (·.offset)

/-- The failure of an expectation at the first token. -/
def Failure.at (what : Expectation) (tokens : List Placed) : Failure := ⟨what, offsetOf? tokens⟩

/-- The further segments of a qualified name, each behind its dot. -/
def segments : List Placed → List Char × List Placed
  | ⟨.dot, _⟩ :: ⟨.identifier word, _⟩ :: rest =>
    ('.' :: word ++ (segments rest).1, (segments rest).2)
  | tokens => ([], tokens)

/-- The number of dimensions behind a type. -/
def dimensions : List Placed → Except Failure (Nat × List Placed)
  | ⟨.openBracket, _⟩ :: ⟨.closeBracket, _⟩ :: rest =>
    (dimensions rest).map fun (count, after) => (count + 1, after)
  | ⟨.openBracket, _⟩ :: rest => .error (.at .closingBracket rest)
  | ⟨.ellipsis, _⟩ :: rest => .ok (1, rest)
  | tokens => .ok (0, tokens)

/-- What an argument starts with before its type: nothing, or the words of a bounded wildcard. The
answer is absent for a wildcard without a bound. -/
def argumentKind : List Placed → Option (TypeName → TypeArg) × List Placed
  | ⟨.question, _⟩ :: ⟨.extendsWord, _⟩ :: rest => (some .upper, rest)
  | ⟨.question, _⟩ :: ⟨.superWord, _⟩ :: rest => (some .lower, rest)
  | ⟨.question, _⟩ :: rest => (none, rest)
  | tokens => (some .exact, tokens)

mutual

/-- Reads a type. The nesting is never deeper than there are tokens, so `fuel` as large as their
number is enough. -/
def parseType (fuel : Nat) (tokens : List Placed) : Except Failure (TypeName × List Placed) :=
  match fuel, tokens with
  | fuel + 1, ⟨.identifier word, _⟩ :: rest => do
    let (further, afterName) := segments rest
    let (args, afterArgs) ← match afterName with
      | ⟨.less, _⟩ :: inner => parseArgs fuel inner
      | other => .ok ([], other)
    let (count, after) ← dimensions afterArgs
    return (.mk (String.ofList (word ++ further)) args (clipDims count), after)
  | _, tokens => .error (.at .typeName tokens)

/-- Reads the arguments after an opening bracket or a comma, up to the closing bracket. -/
def parseArgs (fuel : Nat) (tokens : List Placed) : Except Failure (List TypeArg × List Placed) :=
  match fuel with
  | 0 => .error (.at .typeName tokens)
  | fuel + 1 => do
    let (arg, afterArg) ← match argumentKind tokens with
      | (none, rest) => .ok (.wildcard, rest)
      | (some make, rest) => (parseType fuel rest).map fun (type, after) => (make type, after)
    match afterArg with
    | ⟨.comma, _⟩ :: rest => (parseArgs fuel rest).map fun (args, after) => (arg :: args, after)
    | ⟨.greater, _⟩ :: after => return ([arg], after)
    | other => .error (.at .commaOrGreater other)

end

/-- Reads the tokens of a text as one type. -/
def ofTokens (input : String) (tokens : List Placed) : Except ParseError TypeName :=
  match parseType (tokens.length + 1) tokens with
  | .error failure =>
    .error (.expected failure.what input (failure.offset?.getD input.utf8ByteSize))
  | .ok (type, []) => .ok type
  | .ok (_, rest@(_ :: _)) =>
    .error (.trailing input ((offsetOf? rest).getD input.utf8ByteSize))

/-- The type that a text refers to. -/
def parse (input : String) : Except ParseError TypeName :=
  match TypeToken.scan 0 input.toList with
  | .error offset => .error (.unexpectedCharacter input offset)
  | .ok [] => .error .empty
  | .ok tokens => ofTokens input tokens

end ModelPlanner.TypeName
