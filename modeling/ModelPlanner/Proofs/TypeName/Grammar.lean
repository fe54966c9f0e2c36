/-
**Reading accepts exactly the grammar.**

* `parse_readsAs`: what is read as a type has a derivation, and reading fails at a token or at the end
  of the text only (`ReadsAs`);
* `parseType_yield`: every derivation is read, whatever follows that cannot go on with a type;
* `parse_grammar`: hence a text is a type reference exactly if its tokens have a derivation, which is the
  only one, and every other text has an error that says where.
-/

import ModelPlanner.Proofs.Outcome
import ModelPlanner.Proofs.TypeName.Derivation
import ModelPlanner.Proofs.TypeName.Scan
import ModelPlanner.TypeName.Parser

namespace ModelPlanner.TypeName

open TypeToken (Placed Scanned Stuck EndsArgument segmentTokens pairTokens dotsTokens)

/-! ### The steps of reading -/

/-- Reads the arguments of a type, if there are any. -/
def optionalArgs (fuel : Nat) : List Placed → Except Failure (List TypeArg × List Placed)
  | ⟨.less, _⟩ :: inner => parseArgs fuel inner
  | other => .ok ([], other)

/-- Reads one argument. -/
def parseArg (fuel : Nat) (tokens : List Placed) : Except Failure (TypeArg × List Placed) :=
  match argumentKind tokens with
  | (none, rest) => .ok (.wildcard, rest)
  | (some make, rest) => (parseType fuel rest).map fun (type, after) => (make type, after)

/-- Reads what follows an argument: more of them, or the closing bracket. -/
def furtherArgs (fuel : Nat) (arg : TypeArg) : List Placed → Except Failure (List TypeArg × List Placed)
  | ⟨.comma, _⟩ :: rest => (parseArgs fuel rest).map fun (args, after) => (arg :: args, after)
  | ⟨.greater, _⟩ :: after => .ok ([arg], after)
  | other => .error (.at .commaOrGreater other)

theorem parseType_succ (fuel : Nat) (word : List Char) (offset : Nat) (rest : List Placed) :
    parseType (fuel + 1) (⟨.identifier word, offset⟩ :: rest) =
      (Except.ok (segments rest)).bind fun name =>
        (optionalArgs fuel name.2).bind fun args =>
          (dimensions args.2).map fun (count, after) =>
            (.mk (String.ofList (word ++ name.1)) args.1 (clipDims count), after) := by
  have dims : ∀ (further : List Char) (args : List TypeArg) (afterArgs : List Placed),
      (do
        let (count, after) ← dimensions afterArgs
        return (TypeName.mk (String.ofList (word ++ further)) args (clipDims count), after)) =
      (dimensions afterArgs).map fun (count, after) =>
        (.mk (String.ofList (word ++ further)) args (clipDims count), after) := by
    intro further args afterArgs
    cases dimensions afterArgs <;> rfl
  rw [parseType]
  rcases segments rest with ⟨further, afterName⟩
  show _ = (optionalArgs fuel afterName).bind _
  dsimp only
  split
  · next inner =>
    rw [optionalArgs]
    cases parseArgs fuel inner with
    | error failure => rfl
    | ok read => exact dims further read.1 read.2
  · next noBracket =>
    rw [optionalArgs]
    · exact dims further _ _
    · exact noBracket

theorem parseArgs_succ (fuel : Nat) (tokens : List Placed) :
    parseArgs (fuel + 1) tokens =
      (parseArg fuel tokens).bind fun arg => furtherArgs fuel arg.1 arg.2 := by
  rw [parseArgs]
  unfold parseArg
  rcases argumentKind tokens with ⟨_ | make, rest⟩
  · rfl
  · cases parseType fuel rest <;> rfl

/-! ### What is read has a derivation -/

/-- A result of reading tokens: what is read stands for the tokens that it takes, or reading fails at one
of the tokens or at their end. -/
def ReadsAs {α : Type} (tokens : List Placed) (derives : List TypeToken → α → Prop) :
    Except Failure (α × List Placed) → Prop
  | .error failure => ∃ rest, rest <:+ tokens ∧ failure.offset? = offsetOf? rest
  | .ok (result, rest) => ∃ front, tokens = front ++ rest ∧ derives (front.map (·.token)) result

section ReadsAs

variable {α β : Type} {tokens : List Placed}

theorem ReadsAs.fail {derives : List TypeToken → α → Prop} (what : Expectation) :
    ReadsAs tokens derives (.error (.at what tokens)) :=
  ⟨tokens, List.suffix_refl tokens, rfl⟩

/-- Reading goes on behind a first token. -/
theorem ReadsAs.cons {derives : List TypeToken → α → Prop} {first : Placed}
    {result : Except Failure (α × List Placed)}
    (read : ReadsAs tokens (fun kinds => derives (first.token :: kinds)) result) :
    ReadsAs (first :: tokens) derives result := by
  match result, read with
  | .error failure, ⟨rest, suffix, same⟩ =>
    exact ⟨rest, suffix.trans (List.suffix_cons first tokens), same⟩
  | .ok (value, rest), ⟨front, split, derived⟩ =>
    exact ⟨first :: front, by rw [split, List.cons_append], derived⟩

/-- Reading goes on behind what is read first. -/
theorem ReadsAs.bind {derives : List TypeToken → α → Prop} {derived : List TypeToken → β → Prop}
    {first : Except Failure (α × List Placed)}
    {next : α × List Placed → Except Failure (β × List Placed)} (read : ReadsAs tokens derives first)
    (further : ∀ kinds result rest, derives kinds result →
      ReadsAs rest (fun more => derived (kinds ++ more)) (next (result, rest))) :
    ReadsAs tokens derived (first.bind next) := by
  match first, read with
  | .error failure, failed => exact failed
  | .ok (result, rest), ⟨front, split, holds⟩ =>
    have reads := further _ result rest holds
    show ReadsAs tokens derived (next (result, rest))
    match next (result, rest), reads with
    | .error failure, ⟨last, suffix, same⟩ =>
      exact ⟨last, suffix.trans ⟨front, split.symm⟩, same⟩
    | .ok (value, last), ⟨middle, restSplit, holds⟩ =>
      exact ⟨front ++ middle, by rw [split, restSplit, List.append_assoc],
        by rw [List.map_append]; exact holds⟩

theorem ReadsAs.mono {derives derived : List TypeToken → α → Prop}
    {result : Except Failure (α × List Placed)} (read : ReadsAs tokens derives result)
    (weaker : ∀ kinds value, derives kinds value → derived kinds value) :
    ReadsAs tokens derived result := by
  match result, read with
  | .error failure, failed => exact failed
  | .ok (value, rest), ⟨front, split, holds⟩ => exact ⟨front, split, weaker _ _ holds⟩

/-- What is read is changed into something else. -/
theorem ReadsAs.map {derives : List TypeToken → α → Prop} {derived : List TypeToken → β → Prop}
    (change : α → β) {result : Except Failure (α × List Placed)} (read : ReadsAs tokens derives result)
    (changed : ∀ kinds value, derives kinds value → derived kinds (change value)) :
    ReadsAs tokens derived (result.map fun (value, rest) => (change value, rest)) := by
  match result, read with
  | .error failure, failed => exact failed
  | .ok (value, rest), ⟨front, split, holds⟩ => exact ⟨front, split, changed _ _ holds⟩

end ReadsAs

/-- The words of a name joined by dots: the first one, and a dot before each of the others. -/
theorem intercalate_dot (word : List Char) (more : List (List Char)) :
    ['.'].intercalate (word :: more) = word ++ more.flatMap ('.' :: ·) := by
  induction more generalizing word with
  | nil => rw [List.intercalate_singleton, List.flatMap_nil, List.append_nil]
  | cons next more ih =>
    rw [List.intercalate_cons_cons, ih, List.flatMap_cons, List.append_assoc]
    rfl

/-- The tokens are further segments of a name, and the characters are theirs. -/
theorem segments_readsAs (tokens : List Placed) :
    ReadsAs tokens (fun kinds chars => ∃ words, kinds = segmentTokens words ∧
      chars = words.flatMap ('.' :: ·)) (.ok (segments tokens)) := by
  fun_induction segments tokens with
  | case1 _ word _ rest ih =>
    refine ReadsAs.cons (ReadsAs.cons ?_)
    obtain ⟨front, split, words, kinds, chars⟩ := ih
    exact ⟨front, split, word :: words, by rw [kinds]; rfl, by rw [chars]; rfl⟩
  | case2 tokens => exact ⟨[], rfl, [], rfl, rfl⟩

/-- The tokens are the dimensions of a type, and they are counted. -/
theorem dimensions_readsAs (tokens : List Placed) :
    ReadsAs tokens (fun kinds count => ∃ pairs dots, kinds = pairTokens pairs ++ dotsTokens dots ∧
      count = pairs + if dots then 1 else 0) (dimensions tokens) := by
  fun_induction dimensions tokens with
  | case1 _ _ rest ih =>
    refine ReadsAs.cons (ReadsAs.cons (ih.map (· + 1) ?_))
    rintro _ _ ⟨pairs, dots, rfl, rfl⟩
    exact ⟨pairs + 1, dots, rfl, by omega⟩
  | case2 => exact ReadsAs.cons (ReadsAs.fail _)
  | case3 => exact ⟨[_], rfl, 0, true, rfl, rfl⟩
  | case4 => exact ⟨[], rfl, 0, false, rfl, rfl⟩

/-- The tokens have a derivation as a type, and the type is its value. -/
def IsType (kinds : List TypeToken) (type : TypeName) : Prop :=
  ∃ tree : TypeTree, kinds = tree.yield ∧ type = tree.value

/-- The tokens have a derivation as an argument, and the argument is its value. -/
def IsArg (kinds : List TypeToken) (arg : TypeArg) : Prop :=
  ∃ tree : ArgTree, kinds = tree.yield ∧ arg = tree.value

/-- The tokens have derivations as arguments up to the closing bracket, and these are their values. -/
def IsArgs (kinds : List TypeToken) (args : List TypeArg) : Prop :=
  ∃ first more, kinds = first.yield ++ ArgTree.tailYield more ∧ args = ArgTree.values (first :: more)

section Steps

variable {fuel : Nat}

theorem parseArg_readsAs (types : ∀ tokens, ReadsAs tokens IsType (parseType fuel tokens))
    (tokens : List Placed) : ReadsAs tokens IsArg (parseArg fuel tokens) := by
  unfold parseArg
  fun_cases argumentKind tokens with
  | case1 _ _ rest =>
    refine ReadsAs.cons (ReadsAs.cons ((types rest).map _ ?_))
    rintro _ _ ⟨tree, rfl, rfl⟩
    exact ⟨.upper tree, rfl, rfl⟩
  | case2 _ _ rest =>
    refine ReadsAs.cons (ReadsAs.cons ((types rest).map _ ?_))
    rintro _ _ ⟨tree, rfl, rfl⟩
    exact ⟨.lower tree, rfl, rfl⟩
  | case3 _ rest => exact ReadsAs.cons ⟨[], rfl, .wildcard, rfl, rfl⟩
  | case4 =>
    refine (types tokens).map _ ?_
    rintro _ _ ⟨tree, rfl, rfl⟩
    exact ⟨.exact tree, rfl, rfl⟩

theorem furtherArgs_readsAs (lists : ∀ tokens, ReadsAs tokens IsArgs (parseArgs fuel tokens))
    (first : ArgTree) (tokens : List Placed) :
    ReadsAs tokens (fun kinds args => IsArgs (first.yield ++ kinds) args)
      (furtherArgs fuel first.value tokens) := by
  unfold furtherArgs
  split
  · next rest =>
    refine ReadsAs.cons ((lists rest).map _ ?_)
    rintro _ _ ⟨second, more, rfl, rfl⟩
    exact ⟨first, second :: more, rfl, rfl⟩
  · exact ReadsAs.cons ⟨[], rfl, first, [], rfl, rfl⟩
  · exact ReadsAs.fail _

theorem optionalArgs_readsAs (lists : ∀ tokens, ReadsAs tokens IsArgs (parseArgs fuel tokens))
    (tokens : List Placed) :
    ReadsAs tokens (fun kinds args => ∃ trees, kinds = ArgTree.listYield trees ∧
      args = ArgTree.values trees) (optionalArgs fuel tokens) := by
  unfold optionalArgs
  split
  · next inner =>
    refine ReadsAs.cons ((lists inner).mono ?_)
    rintro _ _ ⟨first, more, rfl, rfl⟩
    exact ⟨first :: more, rfl, rfl⟩
  · exact ⟨[], rfl, [], rfl, rfl⟩

theorem named_readsAs (lists : ∀ tokens, ReadsAs tokens IsArgs (parseArgs fuel tokens))
    (word : List Char) (offset : Nat) (rest : List Placed) :
    ReadsAs (⟨.identifier word, offset⟩ :: rest) IsType
      (parseType (fuel + 1) (⟨.identifier word, offset⟩ :: rest)) := by
  rw [parseType_succ]
  refine ReadsAs.cons ((segments_readsAs rest).bind ?_)
  rintro _ _ afterName ⟨more, rfl, rfl⟩
  refine (optionalArgs_readsAs lists afterName).bind ?_
  rintro _ _ afterArgs ⟨args, rfl, rfl⟩
  refine (dimensions_readsAs afterArgs).map
    (fun count => mk (String.ofList (word ++ more.flatMap ('.' :: ·))) (ArgTree.values args)
      (clipDims count)) ?_
  rintro _ _ ⟨pairs, dots, rfl, rfl⟩
  refine ⟨.mk word more args pairs dots, rfl, ?_⟩
  rw [TypeTree.value, intercalate_dot]

end Steps

/-- **What is read has a derivation**, and reading fails at a token or at the end. -/
theorem parse_readsAs (fuel : Nat) :
    (∀ tokens, ReadsAs tokens IsType (parseType fuel tokens)) ∧
      ∀ tokens, ReadsAs tokens IsArgs (parseArgs fuel tokens) := by
  -- Types and argument lists call each other with less fuel, so both go through one induction on it.
  induction fuel with
  | zero =>
    refine ⟨fun tokens => ?_, fun tokens => ?_⟩
    · rw [parseType]
      · exact ReadsAs.fail _
      · exact nofun
    · rw [parseArgs]
      exact ReadsAs.fail _
  | succ fuel ih =>
    obtain ⟨types, lists⟩ := ih
    refine ⟨fun tokens => ?_, fun tokens => ?_⟩
    · by_cases named : ∃ word offset rest, tokens = ⟨.identifier word, offset⟩ :: rest
      · obtain ⟨word, offset, rest, rfl⟩ := named
        exact named_readsAs lists word offset rest
      · rw [parseType]
        · exact ReadsAs.fail _
        · exact fun _ word offset rest _ same => named ⟨word, offset, rest, same⟩
    · rw [parseArgs_succ]
      refine (parseArg_readsAs types tokens).bind ?_
      rintro _ _ rest ⟨first, rfl, rfl⟩
      exact furtherArgs_readsAs lists first rest

/-! ### Every derivation is read -/

/-- The tokens of a type are read up to where it ends. -/
def ReadsTypes (fuel : Nat) : Prop :=
  ∀ (tree : TypeTree) (front rest : List Placed), front.map (·.token) = tree.yield →
    front.length ≤ fuel → EndsArgument (rest.map (·.token)) →
      parseType fuel (front ++ rest) = .ok (tree.value, rest)

/-- The tokens of arguments are read up to their closing bracket. -/
def ReadsLists (fuel : Nat) : Prop :=
  ∀ (first : ArgTree) (more : List ArgTree) (front rest : List Placed),
    front.map (·.token) = first.yield ++ ArgTree.tailYield more → front.length ≤ fuel →
      parseArgs fuel (front ++ rest) = .ok (ArgTree.values (first :: more), rest)

theorem exists_first {token : TypeToken} {kinds : List TypeToken} {front : List Placed}
    (same : front.map (·.token) = token :: kinds) :
    ∃ offset others, front = ⟨token, offset⟩ :: others ∧ others.map (·.token) = kinds := by
  obtain ⟨⟨_, offset⟩, others, split, rfl, rest⟩ := List.map_eq_cons_iff.mp same
  exact ⟨offset, others, split, rest⟩

theorem segments_append {words : List (List Char)} {front rest : List Placed}
    (kinds : front.map (·.token) = segmentTokens words)
    (noDot : (rest.map (·.token)).head? ≠ some .dot) :
    segments (front ++ rest) = (words.flatMap ('.' :: ·), rest) := by
  induction words generalizing front with
  | nil =>
    rw [List.map_eq_nil_iff.mp kinds, List.nil_append, segments]
    · rfl
    · rintro _ _ _ _ rfl
      exact noDot rfl
  | cons word words ih =>
    obtain ⟨_, afterDot, rfl, afterKinds⟩ := exists_first kinds
    obtain ⟨_, others, rfl, otherKinds⟩ := exists_first afterKinds
    rw [List.cons_append, List.cons_append, segments, ih otherKinds]
    rfl

theorem dimensions_append {pairs : Nat} {dots : Bool} {front rest : List Placed}
    (kinds : front.map (·.token) = pairTokens pairs ++ dotsTokens dots)
    (ends : EndsArgument (rest.map (·.token))) :
    dimensions (front ++ rest) = .ok (pairs + if dots then 1 else 0, rest) := by
  induction pairs generalizing front with
  | zero =>
    cases dots with
    | false =>
      -- What ends a type neither opens a bracket pair nor is it the three dots.
      have ended : ∀ {placed after}, rest = placed :: after →
          placed.token = .comma ∨ placed.token = .greater := by
        rintro placed after rfl
        exact ends _ rfl
      rw [List.map_eq_nil_iff.mp kinds, List.nil_append, dimensions]
      · rfl
      · exact fun _ _ _ same => by simpa using ended same
      · exact fun _ _ same => by simpa using ended same
      · exact fun _ _ same => by simpa using ended same
    | true =>
      obtain ⟨_, others, rfl, otherKinds⟩ := exists_first kinds
      rw [List.map_eq_nil_iff.mp otherKinds]
      rfl
  | succ pairs ih =>
    obtain ⟨_, afterOpen, rfl, afterKinds⟩ := exists_first kinds
    obtain ⟨_, others, rfl, otherKinds⟩ := exists_first afterKinds
    rw [List.cons_append, List.cons_append, dimensions, ih otherKinds]
    exact congrArg (fun count => Except.ok (count, rest)) (Nat.add_right_comm _ _ _)

section Complete

variable {fuel : Nat}

theorem optionalArgs_append (lists : ReadsLists fuel) {args : List ArgTree} {front rest : List Placed}
    (kinds : front.map (·.token) = ArgTree.listYield args) (enough : front.length ≤ fuel)
    (noBracket : (rest.map (·.token)).head? ≠ some .less) :
    optionalArgs fuel (front ++ rest) = .ok (ArgTree.values args, rest) := by
  cases args with
  | nil =>
    rw [List.map_eq_nil_iff.mp kinds, List.nil_append, optionalArgs]
    · rfl
    · rintro _ _ rfl
      exact noBracket rfl
  | cons arg args =>
    obtain ⟨_, inner, rfl, innerKinds⟩ := exists_first kinds
    exact lists arg args inner rest innerKinds (Nat.le_of_succ_le enough)

theorem parseArg_append (types : ReadsTypes fuel) {tree : ArgTree} {front rest : List Placed}
    (kinds : front.map (·.token) = tree.yield) (enough : front.length ≤ fuel)
    (ends : EndsArgument (rest.map (·.token))) :
    parseArg fuel (front ++ rest) = .ok (tree.value, rest) := by
  unfold parseArg
  cases tree with
  | exact type =>
    obtain ⟨word, more, starts⟩ := type.exists_head_yield
    obtain ⟨offset, others, rfl, _⟩ := exists_first (kinds.trans starts)
    have plain : argumentKind (⟨.identifier word, offset⟩ :: others ++ rest) =
        (some .exact, ⟨.identifier word, offset⟩ :: others ++ rest) := rfl
    rw [plain]
    dsimp only
    rw [types type _ rest kinds enough ends]
    rfl
  | wildcard =>
    obtain ⟨offset, others, rfl, otherKinds⟩ := exists_first kinds
    have plain : argumentKind (⟨.question, offset⟩ :: rest) = (none, rest) := by
      rw [argumentKind] <;>
      · rintro _ _ rfl
        simpa using ends _ rfl
    rw [List.map_eq_nil_iff.mp otherKinds, List.singleton_append, plain]
    rfl
  | upper bound =>
    obtain ⟨_, afterMark, rfl, afterKinds⟩ := exists_first kinds
    obtain ⟨_, others, rfl, otherKinds⟩ := exists_first afterKinds
    show (parseType fuel (others ++ rest)).map _ = _
    rw [types bound others rest otherKinds (Nat.le_of_succ_le (Nat.le_of_succ_le enough)) ends]
    rfl
  | lower bound =>
    obtain ⟨_, afterMark, rfl, afterKinds⟩ := exists_first kinds
    obtain ⟨_, others, rfl, otherKinds⟩ := exists_first afterKinds
    show (parseType fuel (others ++ rest)).map _ = _
    rw [types bound others rest otherKinds (Nat.le_of_succ_le (Nat.le_of_succ_le enough)) ends]
    rfl

theorem furtherArgs_append (lists : ReadsLists fuel) (first : ArgTree) {more : List ArgTree}
    {front rest : List Placed} (kinds : front.map (·.token) = ArgTree.tailYield more)
    (enough : front.length ≤ fuel) :
    furtherArgs fuel first.value (front ++ rest) = .ok (ArgTree.values (first :: more), rest) := by
  cases more with
  | nil =>
    obtain ⟨_, others, rfl, otherKinds⟩ := exists_first kinds
    rw [List.map_eq_nil_iff.mp otherKinds]
    rfl
  | cons second more =>
    obtain ⟨_, others, rfl, otherKinds⟩ := exists_first kinds
    show (parseArgs fuel (others ++ rest)).map _ = _
    rw [lists second more others rest otherKinds (Nat.le_of_succ_le enough)]
    rfl

theorem parseType_yield (lists : ReadsLists fuel) : ReadsTypes (fuel + 1) := by
  intro tree front rest kinds enough ends
  obtain ⟨word, more, args, pairs, dots⟩ := tree
  obtain ⟨_, behindWord, rfl, wordKinds⟩ := exists_first kinds
  obtain ⟨name, behindName, rfl, nameKinds, otherKinds⟩ := List.map_eq_append_iff.mp wordKinds
  obtain ⟨list, dims, rfl, listKinds, dimKinds⟩ := List.map_eq_append_iff.mp otherKinds
  have behind := TypeToken.head?_pairTokens ends pairs dots
  rw [← List.append_assoc, ← dimKinds, ← List.map_append] at behind
  have noDot := ArgTree.head?_listYield args behind.1
  rw [← listKinds, ← List.map_append] at noDot
  have size : list.length ≤ fuel := by
    simp only [List.length_cons, List.length_append] at enough
    omega
  rw [List.cons_append, List.append_assoc, List.append_assoc, parseType_succ,
    segments_append nameKinds noDot]
  show (optionalArgs fuel (list ++ (dims ++ rest))).bind _ = _
  rw [optionalArgs_append lists listKinds size behind.2]
  show (dimensions (dims ++ rest)).map _ = _
  rw [dimensions_append dimKinds ends, TypeTree.value, intercalate_dot]
  rfl

theorem parseArgs_yield (types : ReadsTypes fuel) (lists : ReadsLists fuel) :
    ReadsLists (fuel + 1) := by
  intro first more front rest kinds enough
  obtain ⟨arg, others, rfl, argKinds, otherKinds⟩ := List.map_eq_append_iff.mp kinds
  have ends : EndsArgument ((others ++ rest).map (·.token)) := by
    rw [List.map_append, otherKinds]
    exact ArgTree.endsArgument_tailYield more _
  -- The fuel is enough for either part, since the other one takes a token too.
  have something : 0 < others.length := by
    rw [← List.length_map (·.token), otherKinds]
    cases more <;> exact Nat.succ_pos _
  have argBefore : 0 < arg.length := by
    rw [← List.length_map (·.token), argKinds]
    exact first.length_yield_pos
  rw [List.length_append] at enough
  rw [List.append_assoc, parseArgs_succ, parseArg_append types argKinds (by omega) ends]
  show furtherArgs fuel first.value (others ++ rest) = _
  exact furtherArgs_append lists first otherKinds (by omega)

end Complete

/-- **Every derivation is read** with as much fuel as it has tokens. -/
theorem parse_yield (fuel : Nat) : ReadsTypes fuel ∧ ReadsLists fuel := by
  induction fuel with
  | zero =>
    refine ⟨fun tree front rest kinds enough _ => ?_, fun first more front rest kinds enough => ?_⟩
    · have some := tree.length_yield_pos
      rw [← kinds, List.length_map] at some
      omega
    · have some := congrArg List.length kinds
      have positive := first.length_yield_pos
      rw [List.length_map, List.length_append] at some
      omega
  | succ fuel ih => exact ⟨parseType_yield ih.2, parseArgs_yield ih.1 ih.2⟩

/-! ### The whole text -/

section Texts

variable {input : String} {read rest : List Char} {tokens : List Placed}

theorem parse_of_stuck (scanned : Scanned input.toList read tokens rest) (stuck : Stuck rest) :
    parse input = .error (.unexpectedCharacter input (String.ofList read).utf8ByteSize) := by
  rw [parse, TypeToken.scan_eq_error scanned stuck]

theorem parse_of_scanned (scanned : Scanned input.toList read tokens []) (some : tokens ≠ []) :
    parse input = ofTokens input tokens := by
  rw [parse, TypeToken.scan_eq_ok_iff.mpr ⟨read, scanned⟩]
  cases tokens with
  | nil => exact absurd rfl some
  | cons first others => rfl

theorem parse_of_no_token (scanned : Scanned input.toList read [] []) :
    parse input = .error .empty := by
  rw [parse, TypeToken.scan_eq_ok_iff.mpr ⟨read, scanned⟩]

/-- The tokens of a type are read as the type. -/
theorem ofTokens_yield (input : String) {tree : TypeTree} (kinds : tree.yield = tokens.map (·.token)) :
    ofTokens input tokens = .ok tree.value := by
  have read := (parse_yield (tokens.length + 1)).1 tree tokens [] kinds.symm (Nat.le_succ _)
    TypeToken.endsArgument_nil
  rw [List.append_nil] at read
  rw [ofTokens, read]

/-- Tokens that are read as a type are the tokens of it. -/
theorem exists_yield_of_ofTokens {type : TypeName} (accepted : ofTokens input tokens = .ok type) :
    ∃ tree : TypeTree, tree.yield = tokens.map (·.token) ∧ tree.value = type := by
  have reads := (parse_readsAs (tokens.length + 1)).1 tokens
  unfold ofTokens at accepted
  split at accepted
  · cases accepted
  · next whole =>
    cases accepted
    rw [whole] at reads
    obtain ⟨front, split, tree, kinds, rfl⟩ := reads
    rw [List.append_nil] at split
    exact ⟨tree, by rw [split, kinds], rfl⟩
  · cases accepted

/-- The error quotes the text and a place in it: the start of a token, or the end. -/
def ParseError.Located (input : String) (tokens : List Placed) (error : ParseError) : Prop :=
  ∃ offset, (offset = input.utf8ByteSize ∨ ∃ placed ∈ tokens, placed.offset = offset) ∧
    ((∃ what, error = .expected what input offset) ∨ error = .trailing input offset)

/-- The place where some of the tokens are left is the start of a token or the end. -/
theorem offsetOf?_suffix {left : List Placed} (suffix : left <:+ tokens) :
    (offsetOf? left).getD input.utf8ByteSize = input.utf8ByteSize ∨
      ∃ placed ∈ tokens, placed.offset = (offsetOf? left).getD input.utf8ByteSize := by
  cases left with
  | nil => exact Or.inl rfl
  | cons placed others => exact Or.inr ⟨placed, suffix.subset List.mem_cons_self, rfl⟩

theorem ofTokens_located {error : ParseError} (rejected : ofTokens input tokens = .error error) :
    error.Located input tokens := by
  have reads := (parse_readsAs (tokens.length + 1)).1 tokens
  unfold ofTokens at rejected
  split at rejected
  · next failed =>
    cases rejected
    rw [failed] at reads
    obtain ⟨left, suffix, place⟩ := reads
    refine ⟨_, ?_, Or.inl ⟨_, rfl⟩⟩
    rw [place]
    exact offsetOf?_suffix suffix
  · cases rejected
  · next further =>
    cases rejected
    rw [further] at reads
    obtain ⟨front, split, _⟩ := reads
    exact ⟨_, offsetOf?_suffix ⟨front, split.symm⟩, Or.inr rfl⟩

end Texts

/-- **Reading accepts exactly the grammar.** If the scan of a text gets stuck, the text has an unexpected
character there. Otherwise a text without tokens is empty, the others are read as a type exactly if
their tokens have a derivation, and the error of the rest of them quotes the start of a token or the end
of the text. There is no other case, and no tokens have two derivations. -/
theorem parse_grammar (input : String) :
    (∀ read tokens rest, Scanned input.toList read tokens rest → Stuck rest →
      parse input = .error (.unexpectedCharacter input (String.ofList read).utf8ByteSize)) ∧
    (∀ read, Scanned input.toList read [] [] → parse input = .error .empty) ∧
    (∀ read tokens, Scanned input.toList read tokens [] → tokens ≠ [] →
      (∀ type, parse input = .ok type ↔
        ∃ tree : TypeTree, tree.yield = tokens.map (·.token) ∧ tree.value = type) ∧
      ((¬∃ tree : TypeTree, tree.yield = tokens.map (·.token)) →
        ∃ error, parse input = .error error ∧ error.Located input tokens)) ∧
    (∃ read tokens rest, Scanned input.toList read tokens rest ∧ (rest = [] ∨ Stuck rest)) ∧
    ∀ first second : TypeTree, first.yield = second.yield → first = second := by
  refine ⟨fun _ _ _ => parse_of_stuck, fun _ => parse_of_no_token, ?_,
    TypeToken.exists_scanned input.toList, fun _ _ => TypeTree.yield_injective⟩
  intro read tokens scanned some
  rw [parse_of_scanned scanned some]
  refine ⟨fun type => ⟨exists_yield_of_ofTokens, ?_⟩, fun underivable => ?_⟩
  · rintro ⟨tree, kinds, rfl⟩
    exact ofTokens_yield input kinds
  · cases result : ofTokens input tokens with
    | error error => exact ⟨error, rfl, ofTokens_located result⟩
    | ok type =>
      obtain ⟨tree, kinds, _⟩ := exists_yield_of_ofTokens result
      exact absurd ⟨tree, kinds⟩ underivable

/-- A stray character, a blank text, a type and one that is cut off. -/
theorem parse_grammar_cases :
    parse "K#" = .error (.unexpectedCharacter "K#" 1) ∧
    parse " " = .error .empty ∧
    parse "A<?>..." = .ok (.mk "A" [.wildcard] 1) ∧
    ∃ error, parse "A<" = .error error ∧
      error.Located "A<" [⟨.identifier ['A'], 0⟩, ⟨.less, 1⟩] := by
  have longest : ∀ {cs token after}, TypeToken.first? cs = some (token, after) →
      TypeToken.Longest cs token after := TypeToken.first?_eq_some_iff.mp
  refine ⟨?_, ?_, ?_, ?_⟩
  · exact (parse_grammar "K#").1 _ _ _ (Scanned.start.token (longest rfl))
      ⟨⟨'#', rfl, by decide⟩, TypeToken.first?_eq_none_iff.mp rfl⟩
  · exact (parse_grammar " ").2.1 _ (Scanned.start.space (by decide))
  · have name : Scanned "A<?>...".toList _ _ _ := Scanned.start.token (longest rfl)
    have opened := name.token (longest rfl)
    have wildcard := opened.token (longest rfl)
    have closed := wildcard.token (longest rfl)
    have dots := closed.token (longest rfl)
    exact (((parse_grammar "A<?>...").2.2.1 _ _ dots nofun).1 _).mpr
      ⟨.mk ['A'] [] [.wildcard] 0 true, rfl, rfl⟩
  · have name : Scanned "A<".toList _ _ _ := Scanned.start.token (longest rfl)
    have opened := name.token (longest rfl)
    refine ((parse_grammar "A<").2.2.1 _ _ opened nofun).2 ?_
    rintro ⟨tree, kinds⟩
    have accepted := ofTokens_yield "A<" kinds
    cases accepted

end ModelPlanner.TypeName
