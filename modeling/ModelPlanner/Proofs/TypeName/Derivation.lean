/-
**Derivations of type references.**

    Type ::= Identifier ('.' Identifier)* [ '<' Arg (',' Arg)* '>' ] ('[' ']')* [ '...' ]
    Arg  ::= Type | '?' | '?' 'extends' Type | '?' 'super' Type

A derivation is a tree of these two rules. Its `yield` is the tokens that it derives, and its `value` the
type reference that it stands for. The tokens determine the tree, `yield_injective`: what follows a type
in a longer derivation is a comma or a closing bracket (`EndsArgument`), and neither goes on with the type.
-/

import ModelPlanner.TypeName.Basic
import ModelPlanner.TypeName.Token

namespace ModelPlanner

/-! ### Trees -/

mutual

/-- A derivation of `Type`: the first identifier, those behind a dot, the arguments (the brackets are
left out with them), the number of bracket pairs and whether three dots end the type. -/
inductive TypeTree where
  | mk (word : List Char) (more : List (List Char)) (args : List ArgTree) (pairs : Nat) (dots : Bool)

/-- A derivation of `Arg`. -/
inductive ArgTree where
  | exact (type : TypeTree)
  | wildcard
  | upper (bound : TypeTree)
  | lower (bound : TypeTree)

end

namespace TypeToken

/-- The tokens of further identifiers, each behind a dot. -/
def segmentTokens (words : List (List Char)) : List TypeToken :=
  words.flatMap fun word => [.dot, .identifier word]

/-- The tokens of a number of bracket pairs. -/
def pairTokens (pairs : Nat) : List TypeToken :=
  (List.replicate pairs [.openBracket, .closeBracket]).flatten

/-- The token of three dots, if they are there. -/
def dotsTokens (dots : Bool) : List TypeToken := if dots then [.ellipsis] else []

end TypeToken

open TypeToken (segmentTokens pairTokens dotsTokens)

mutual

/-- The tokens that a derivation of `Type` derives. -/
def TypeTree.yield : TypeTree → List TypeToken
  | .mk word more args pairs dots =>
    .identifier word :: (segmentTokens more ++ (ArgTree.listYield args ++
      (pairTokens pairs ++ dotsTokens dots)))

/-- The tokens that a derivation of `Arg` derives. -/
def ArgTree.yield : ArgTree → List TypeToken
  | .exact type => type.yield
  | .wildcard => [.question]
  | .upper bound => .question :: .extendsWord :: bound.yield
  | .lower bound => .question :: .superWord :: bound.yield

/-- The tokens of an argument list in its brackets; an empty one has none. -/
def ArgTree.listYield : List ArgTree → List TypeToken
  | [] => []
  | arg :: rest => .less :: (arg.yield ++ ArgTree.tailYield rest)

/-- The tokens of the further arguments up to the closing bracket. -/
def ArgTree.tailYield : List ArgTree → List TypeToken
  | [] => [.greater]
  | arg :: rest => .comma :: (arg.yield ++ ArgTree.tailYield rest)

end

mutual

/-- The type reference of a derivation: the identifiers are joined by dots, and every bracket pair and
the three dots are a dimension. -/
def TypeTree.value : TypeTree → TypeName
  | .mk word more args pairs dots =>
    .mk (String.ofList (['.'].intercalate (word :: more))) (ArgTree.values args)
      (TypeName.clipDims (pairs + if dots then 1 else 0))

/-- The type argument of a derivation. -/
def ArgTree.value : ArgTree → TypeArg
  | .exact type => .exact type.value
  | .wildcard => .wildcard
  | .upper bound => .upper bound.value
  | .lower bound => .lower bound.value

/-- The type arguments of derivations. -/
def ArgTree.values : List ArgTree → List TypeArg
  | [] => []
  | arg :: rest => arg.value :: ArgTree.values rest

end

/-! ### The tokens determine the tree -/

namespace TypeToken

/-- What may follow a type: a comma, a closing bracket, or nothing. -/
def EndsArgument (rest : List TypeToken) : Prop := ∀ token ∈ rest.head?, token = .comma ∨ token = .greater

@[simp]
theorem endsArgument_nil : EndsArgument [] := nofun

theorem segmentTokens_append_inj {first second : List (List Char)} {rest rest' : List TypeToken}
    (noDot : rest.head? ≠ some .dot) (noDot' : rest'.head? ≠ some .dot)
    (same : segmentTokens first ++ rest = segmentTokens second ++ rest') :
    first = second ∧ rest = rest' := by
  induction first generalizing second with
  | nil =>
    cases second with
    | nil => exact ⟨rfl, same⟩
    | cons word words => exact absurd (congrArg List.head? same) noDot
  | cons word words ih =>
    cases second with
    | nil => exact absurd (congrArg List.head? same).symm noDot'
    | cons word' words' =>
      obtain ⟨sameWord, sameRest⟩ := List.cons.inj (List.cons.inj same).2
      cases sameWord
      obtain ⟨rfl, rfl⟩ := ih sameRest
      exact ⟨rfl, rfl⟩

theorem pairTokens_append_inj {first second : Nat} {rest rest' : List TypeToken}
    (noBracket : rest.head? ≠ some .openBracket) (noBracket' : rest'.head? ≠ some .openBracket)
    (same : pairTokens first ++ rest = pairTokens second ++ rest') :
    first = second ∧ rest = rest' := by
  induction first generalizing second with
  | zero =>
    cases second with
    | zero => exact ⟨rfl, same⟩
    | succ second => exact absurd (congrArg List.head? same) noBracket
  | succ first ih =>
    cases second with
    | zero => exact absurd (congrArg List.head? same).symm noBracket'
    | succ second =>
      obtain ⟨rfl, rfl⟩ := ih (List.cons.inj (List.cons.inj same).2).2
      exact ⟨rfl, rfl⟩

theorem dotsTokens_append_inj {first second : Bool} {rest rest' : List TypeToken}
    (ends : EndsArgument rest) (ends' : EndsArgument rest')
    (same : dotsTokens first ++ rest = dotsTokens second ++ rest') :
    first = second ∧ rest = rest' := by
  cases first with
  | false =>
    cases second with
    | false => exact ⟨rfl, same⟩
    | true =>
      have follows := ends .ellipsis (congrArg List.head? same)
      simp at follows
  | true =>
    cases second with
    | false =>
      have follows := ends' .ellipsis (congrArg List.head? same).symm
      simp at follows
    | true => exact ⟨rfl, (List.cons.inj same).2⟩

/-- Behind the bracket pairs of a type no bracket opens. -/
theorem head?_dotsTokens {rest : List TypeToken} (ends : EndsArgument rest) (dots : Bool) :
    (dotsTokens dots ++ rest).head? ≠ some .openBracket := by
  cases dots with
  | true => exact nofun
  | false =>
    intro head
    have follows := ends _ head
    simp at follows

/-- Behind the arguments of a type neither an identifier goes on nor an argument list begins. -/
theorem head?_pairTokens {rest : List TypeToken} (ends : EndsArgument rest) (pairs : Nat) (dots : Bool) :
    (pairTokens pairs ++ (dotsTokens dots ++ rest)).head? ≠ some .dot ∧
      (pairTokens pairs ++ (dotsTokens dots ++ rest)).head? ≠ some .less := by
  cases pairs with
  | succ pairs => exact ⟨nofun, nofun⟩
  | zero =>
    cases dots with
    | true => exact ⟨nofun, nofun⟩
    | false =>
      refine ⟨fun head => ?_, fun head => ?_⟩ <;>
      · have follows := ends _ head
        simp at follows

end TypeToken

open TypeToken (EndsArgument)

@[simp]
theorem ArgTree.endsArgument_tailYield (args : List ArgTree) (rest : List TypeToken) :
    EndsArgument (ArgTree.tailYield args ++ rest) := by
  intro token head
  cases args with
  | nil => exact Or.inr (Option.some.inj head).symm
  | cons arg args => exact Or.inl (Option.some.inj head).symm

/-- Behind the name of a type no identifier goes on. -/
theorem ArgTree.head?_listYield (args : List ArgTree) {rest : List TypeToken}
    (noDot : rest.head? ≠ some .dot) : (ArgTree.listYield args ++ rest).head? ≠ some .dot := by
  cases args with
  | nil => exact noDot
  | cons arg args => exact nofun

/-- A type starts with an identifier. -/
theorem TypeTree.exists_head_yield (tree : TypeTree) :
    ∃ word rest, tree.yield = .identifier word :: rest := by
  cases tree with
  | mk word => exact ⟨word, _, rfl⟩

theorem TypeTree.length_yield_pos (tree : TypeTree) : 0 < tree.yield.length := by
  obtain ⟨word, rest, starts⟩ := tree.exists_head_yield
  rw [starts]
  exact Nat.succ_pos _

theorem ArgTree.length_yield_pos (tree : ArgTree) : 0 < tree.yield.length := by
  cases tree with
  | exact type => exact type.length_yield_pos
  | wildcard | upper bound | lower bound => exact Nat.succ_pos _

theorem TypeTree.yield_append_ne (tree : TypeTree) (rest rest' : List TypeToken) :
    tree.yield ++ rest ≠ .question :: rest' := by
  obtain ⟨word, more, starts⟩ := tree.exists_head_yield
  intro same
  rw [starts] at same
  cases (List.cons.inj same).1

mutual

theorem TypeTree.yield_append_inj : (first second : TypeTree) → {rest rest' : List TypeToken} →
    EndsArgument rest → EndsArgument rest' → first.yield ++ rest = second.yield ++ rest' →
      first = second ∧ rest = rest'
  | .mk word more args pairs dots, .mk word' more' args' pairs' dots', rest, rest', ends, ends' => by
    intro same
    have behind := TypeToken.head?_pairTokens ends pairs dots
    have behind' := TypeToken.head?_pairTokens ends' pairs' dots'
    simp only [TypeTree.yield, List.cons_append, List.append_assoc, List.cons.injEq,
      TypeToken.identifier.injEq] at same
    -- Each part ends at the same token, since what may come behind it does not go on with it.
    obtain ⟨rfl, afterWord⟩ := same
    obtain ⟨rfl, afterName⟩ := TypeToken.segmentTokens_append_inj
      (ArgTree.head?_listYield args behind.1) (ArgTree.head?_listYield args' behind'.1) afterWord
    obtain ⟨rfl, afterArgs⟩ := ArgTree.listYield_append_inj args args' behind.2 behind'.2 afterName
    obtain ⟨rfl, afterPairs⟩ := TypeToken.pairTokens_append_inj
      (TypeToken.head?_dotsTokens ends dots) (TypeToken.head?_dotsTokens ends' dots') afterArgs
    obtain ⟨rfl, after⟩ := TypeToken.dotsTokens_append_inj ends ends' afterPairs
    exact ⟨rfl, after⟩

theorem ArgTree.yield_append_inj : (first second : ArgTree) → {rest rest' : List TypeToken} →
    EndsArgument rest → EndsArgument rest' → first.yield ++ rest = second.yield ++ rest' →
      first = second ∧ rest = rest'
  | .exact type, .exact type', _, _, ends, ends', same => by
    obtain ⟨rfl, after⟩ := TypeTree.yield_append_inj type type' ends ends' same
    exact ⟨rfl, after⟩
  | .wildcard, .wildcard, _, _, _, _, same => ⟨rfl, (List.cons.inj same).2⟩
  | .upper bound, .upper bound', _, _, ends, ends', same => by
    obtain ⟨rfl, after⟩ := TypeTree.yield_append_inj bound bound' ends ends'
      (List.cons.inj (List.cons.inj same).2).2
    exact ⟨rfl, after⟩
  | .lower bound, .lower bound', _, _, ends, ends', same => by
    obtain ⟨rfl, after⟩ := TypeTree.yield_append_inj bound bound' ends ends'
      (List.cons.inj (List.cons.inj same).2).2
    exact ⟨rfl, after⟩
  -- A type starts with no question mark, and behind a plain wildcard the argument ends without a bound.
  | .exact type, .wildcard, _, _, _, _, same | .exact type, .upper _, _, _, _, _, same
  | .exact type, .lower _, _, _, _, _, same => absurd same (type.yield_append_ne _ _)
  | .wildcard, .exact type, _, _, _, _, same | .upper _, .exact type, _, _, _, _, same
  | .lower _, .exact type, _, _, _, _, same => absurd same.symm (type.yield_append_ne _ _)
  | .wildcard, .upper _, _, _, ends, _, same | .wildcard, .lower _, _, _, ends, _, same =>
    absurd (ends _ (congrArg List.head? (List.cons.inj same).2)) (by simp)
  | .upper _, .wildcard, _, _, _, ends, same | .lower _, .wildcard, _, _, _, ends, same =>
    absurd (ends _ (congrArg List.head? (List.cons.inj same).2).symm) (by simp)
  | .upper _, .lower _, _, _, _, _, same | .lower _, .upper _, _, _, _, _, same => by
    cases (List.cons.inj (List.cons.inj same).2).1

theorem ArgTree.listYield_append_inj : (first second : List ArgTree) → {rest rest' : List TypeToken} →
    rest.head? ≠ some .less → rest'.head? ≠ some .less →
      ArgTree.listYield first ++ rest = ArgTree.listYield second ++ rest' →
        first = second ∧ rest = rest'
  | [], [], _, _, _, _, same => ⟨rfl, same⟩
  | [], _ :: _, _, _, noBracket, _, same => absurd (congrArg List.head? same) noBracket
  | _ :: _, [], _, _, _, noBracket, same => absurd (congrArg List.head? same).symm noBracket
  | arg :: args, arg' :: args', rest, rest', _, _, same => by
    simp only [ArgTree.listYield, List.cons_append, List.append_assoc, List.cons.injEq,
      true_and] at same
    obtain ⟨rfl, afterArg⟩ := ArgTree.yield_append_inj arg arg' (ArgTree.endsArgument_tailYield args rest)
      (ArgTree.endsArgument_tailYield args' rest') same
    obtain ⟨rfl, after⟩ := ArgTree.tailYield_append_inj args args' afterArg
    exact ⟨rfl, after⟩

theorem ArgTree.tailYield_append_inj : (first second : List ArgTree) → {rest rest' : List TypeToken} →
    ArgTree.tailYield first ++ rest = ArgTree.tailYield second ++ rest' →
      first = second ∧ rest = rest'
  | [], [], _, _, same => ⟨rfl, (List.cons.inj same).2⟩
  | [], _ :: _, _, _, same => by cases (List.cons.inj same).1
  | _ :: _, [], _, _, same => by cases (List.cons.inj same).1
  | arg :: args, arg' :: args', rest, rest', same => by
    simp only [ArgTree.tailYield, List.cons_append, List.append_assoc, List.cons.injEq,
      true_and] at same
    obtain ⟨rfl, afterArg⟩ := ArgTree.yield_append_inj arg arg' (ArgTree.endsArgument_tailYield args rest)
      (ArgTree.endsArgument_tailYield args' rest') same
    obtain ⟨rfl, after⟩ := ArgTree.tailYield_append_inj args args' afterArg
    exact ⟨rfl, after⟩

end

/-- **The tokens of a type determine its derivation.** -/
theorem TypeTree.yield_injective {first second : TypeTree} (same : first.yield = second.yield) :
    first = second := by
  have appended : first.yield ++ [] = second.yield ++ [] := by rw [same]
  exact (TypeTree.yield_append_inj first second TypeToken.endsArgument_nil TypeToken.endsArgument_nil
    appended).1

end ModelPlanner
