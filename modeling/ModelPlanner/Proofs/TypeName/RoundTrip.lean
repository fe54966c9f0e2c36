/-
**Writing and reading undo each other.**

A type reference is well-formed if its name is identifiers joined by dots, and its arguments are
well-formed in turn. The scan of a written reference is put together from its parts (`ScannedAs`): the
characters of a part are read as its tokens, wherever the part stands and whatever follows it that no
word goes on with.

* `TypeName.scannedAs`: the text of a well-formed reference has the tokens of a derivation of it;
* `TypeTree.wellFormed`: what is derived from tokens of a text is well-formed;
* `parse_text`: hence the well-formed references are those that are read, each is read from its own text,
  and so no two of them have one text.
-/

import ModelPlanner.Proofs.TypeName.Grammar

namespace ModelPlanner

open TypeToken (IsIdentifier Scanned Spelled Closed Placed segmentTokens pairTokens)

/-! ### Well-formed references -/

/-- The name is identifiers joined by dots. -/
def TypeName.IsQualified (name : String) : Prop :=
  ∃ word more, (∀ other ∈ word :: more, IsIdentifier other) ∧
    name.toList = ['.'].intercalate (word :: more)

mutual

/-- The name is qualified, and the arguments are well-formed. -/
def TypeName.WellFormed : TypeName → Prop
  | .mk name args _ => TypeName.IsQualified name ∧ TypeArg.AllWellFormed args

/-- The type or the bound of the argument is well-formed, if it has one. -/
def TypeArg.WellFormed : TypeArg → Prop
  | .exact type => type.WellFormed
  | .wildcard => True
  | .upper bound => bound.WellFormed
  | .lower bound => bound.WellFormed

/-- All arguments of a list are well-formed. -/
def TypeArg.AllWellFormed : List TypeArg → Prop
  | [] => True
  | arg :: rest => arg.WellFormed ∧ TypeArg.AllWellFormed rest

end

/-! ### How written parts are scanned -/

namespace TypeToken

/-- The scan of any text that comes to the characters, with this rest behind them, reads them as the
tokens. -/
def ScannedAs (chars : List Char) (kinds : List TypeToken) (rest : List Char) : Prop :=
  ∀ ⦃text read : List Char⦄ ⦃tokens : List Placed⦄, Scanned text read tokens (chars ++ rest) →
    ∃ placed, Scanned text (read ++ chars) (tokens ++ placed) rest ∧ placed.map (·.token) = kinds

/-- No word goes on with the rest. -/
def NoWord (rest : List Char) : Prop := ∀ c ∈ rest.head?, isWordPart c = false

theorem noWord_nil : NoWord [] := nofun

theorem noWord_cons {c : Char} (ends : isWordPart c = false) (rest : List Char) :
    NoWord (c :: rest) := by
  rintro _ ⟨⟩
  exact ends

namespace ScannedAs

variable {rest chars : List Char} {kinds : List TypeToken}

theorem nil : ScannedAs [] [] rest := by
  intro text read tokens scanned
  refine ⟨[], ?_, rfl⟩
  rw [List.append_nil, List.append_nil]
  exact scanned

theorem append {first : List Char} {before : List TypeToken}
    (one : ScannedAs first before (chars ++ rest)) (other : ScannedAs chars kinds rest) :
    ScannedAs (first ++ chars) (before ++ kinds) rest := by
  intro text read tokens scanned
  rw [List.append_assoc] at scanned
  obtain ⟨placed, between, placedKinds⟩ := one scanned
  obtain ⟨further, done, furtherKinds⟩ := other between
  refine ⟨placed ++ further, ?_, ?_⟩
  · rw [← List.append_assoc, ← List.append_assoc]
    exact done
  · rw [List.map_append, placedKinds, furtherKinds]

/-- A token is read before the others. -/
theorem token (token : TypeToken) (spelled : token.Spelled) (closed : Closed (chars ++ rest) token)
    (further : ScannedAs chars kinds rest) : ScannedAs (token.chars ++ chars) (token :: kinds) rest := by
  show ScannedAs (token.chars ++ chars) ([token] ++ kinds) rest
  refine append ?_ further
  intro text read tokens scanned
  have taken := first?_eq_some_iff.mp (first?_of_closed spelled closed)
  exact ⟨[⟨token, _⟩], scanned.token taken, rfl⟩

/-- A space is left out before the others. -/
theorem space (further : ScannedAs chars kinds rest) : ScannedAs (' ' :: chars) kinds rest := by
  intro text read tokens scanned
  obtain ⟨placed, done, same⟩ := further (scanned.space (by decide))
  refine ⟨placed, ?_, same⟩
  rw [List.append_cons]
  exact done

/-- A wildcard with a bound is read as its mark, its keyword and the bound. -/
theorem bound (keyword : TypeToken) (spelled : keyword.Spelled)
    (closed : ∀ rest, NoWord rest → Closed rest keyword) (further : ScannedAs chars kinds rest) :
    ScannedAs ('?' :: ' ' :: (keyword.chars ++ ' ' :: chars)) (.question :: keyword :: kinds) rest := by
  have ended : Closed (' ' :: (chars ++ rest)) keyword := closed _ (noWord_cons (by decide) _)
  have behindMark := token keyword spelled ended further.space
  exact token .question trivial trivial behindMark.space

end ScannedAs

/-- The brackets of dimensions are read in pairs. -/
theorem scannedAs_pairs (count : Nat) (rest : List Char) :
    ScannedAs (List.replicate count ['[', ']']).flatten (pairTokens count) rest := by
  induction count with
  | zero => exact ScannedAs.nil
  | succ count ih =>
    exact ScannedAs.token .openBracket trivial trivial (ScannedAs.token .closeBracket trivial trivial ih)

theorem noWord_pairs (count : Nat) {rest : List Char} (ends : NoWord rest) :
    NoWord ((List.replicate count ['[', ']']).flatten ++ rest) := by
  cases count with
  | zero => exact ends
  | succ count => exact noWord_cons (by decide) _

/-- A word starts with no dot. -/
theorem IsWord.head_ne {word : List Char} (isWord : IsWord word) (rest : List Char) :
    (word ++ rest).head? ≠ some '.' := by
  cases word with
  | nil => exact isWord.elim
  | cons first more =>
    intro dot
    cases dot
    exact absurd isWord.1 (by decide)

theorem noWord_dots (words : List (List Char)) {rest : List Char} (ends : NoWord rest) :
    NoWord (words.flatMap ('.' :: ·) ++ rest) := by
  cases words with
  | nil => exact ends
  | cons word words => exact noWord_cons (by decide) _

theorem scannedAs_segments {words : List (List Char)} (identifiers : ∀ word ∈ words, IsIdentifier word)
    {rest : List Char} (ends : NoWord rest) :
    ScannedAs (words.flatMap ('.' :: ·)) (segmentTokens words) rest := by
  induction words with
  | nil => exact ScannedAs.nil
  | cons word words ih =>
    have identifier := identifiers word List.mem_cons_self
    have later := ih fun other member => identifiers other (List.mem_cons_of_mem word member)
    refine ScannedAs.token .dot trivial ?_
      (ScannedAs.token (.identifier word) identifier (noWord_dots words ends) later)
    show ((word ++ words.flatMap ('.' :: ·)) ++ rest).head? ≠ some '.'
    rw [List.append_assoc]
    exact identifier.1.head_ne _

/-- A name is read before what no word goes on with. -/
theorem scannedAs_name {word : List Char} {more : List (List Char)}
    (identifiers : ∀ other ∈ word :: more, IsIdentifier other) {chars rest : List Char}
    {kinds : List TypeToken} (ends : NoWord (chars ++ rest)) (further : ScannedAs chars kinds rest) :
    ScannedAs (['.'].intercalate (word :: more) ++ chars)
      (.identifier word :: (segmentTokens more ++ kinds)) rest := by
  obtain ⟨identifier, others⟩ := List.forall_mem_cons.mp identifiers
  have segments := (scannedAs_segments others ends).append further
  have wordEnds := noWord_dots more ends
  rw [← List.append_assoc] at wordEnds
  rw [TypeName.intercalate_dot, List.append_assoc]
  exact ScannedAs.token (.identifier word) identifier wordEnds segments

end TypeToken

open TypeToken (ScannedAs NoWord noWord_cons noWord_nil)

theorem TypeArg.noWord_tailChars (args : List TypeArg) (rest : List Char) :
    NoWord (TypeArg.tailChars args ++ rest) := by
  cases args with
  | nil => exact noWord_cons (by decide) _
  | cons arg args => exact noWord_cons (by decide) _

theorem TypeArg.noWord_listChars (args : List TypeArg) {rest : List Char} (ends : NoWord rest) :
    NoWord (TypeArg.listChars args ++ rest) := by
  cases args with
  | nil => exact ends
  | cons arg args => exact noWord_cons (by decide) _

mutual

/-- **The text of a well-formed reference has the tokens of a derivation of it.** -/
theorem TypeName.scannedAs : (type : TypeName) → type.WellFormed →
    ∃ tree : TypeTree, tree.value = type ∧
      ∀ rest, NoWord rest → ScannedAs type.chars tree.yield rest
  | .mk name args dims, ⟨⟨word, more, identifiers, written⟩, formed⟩ => by
    obtain ⟨trees, values, list⟩ := TypeArg.scannedAs_list args formed
    refine ⟨.mk word more trees dims.val false, ?_, fun rest ends => ?_⟩
    · have clipped : TypeName.clipDims (dims.val + 0) = dims :=
        Fin.ext (Nat.min_eq_left (Nat.le_of_lt_succ dims.isLt))
      show TypeName.mk (String.ofList (['.'].intercalate (word :: more))) (ArgTree.values trees)
        (TypeName.clipDims (dims.val + 0)) = _
      rw [← written, String.ofList_toList, values, clipped]
    · -- No word goes on with the arguments, the brackets or the rest, so the name ends before them.
      have dimensions := TypeToken.scannedAs_pairs dims.val rest
      have argsEnd := TypeArg.noWord_listChars args (TypeToken.noWord_pairs dims.val ends)
      rw [← List.append_nil (pairTokens dims.val)] at dimensions
      rw [← List.append_assoc] at argsEnd
      rw [TypeName.chars, written, List.append_assoc]
      exact TypeToken.scannedAs_name identifiers argsEnd ((list _).append dimensions)

/-- The text of a well-formed argument has the tokens of a derivation of it. -/
theorem TypeArg.scannedAs : (arg : TypeArg) → arg.WellFormed →
    ∃ tree : ArgTree, tree.value = arg ∧
      ∀ rest, NoWord rest → ScannedAs arg.chars tree.yield rest
  | .exact type, formed => by
    obtain ⟨tree, value, scan⟩ := type.scannedAs formed
    exact ⟨.exact tree, congrArg TypeArg.exact value, scan⟩
  | .wildcard, _ =>
    ⟨.wildcard, rfl, fun _ _ => ScannedAs.token .question trivial trivial ScannedAs.nil⟩
  | .upper bound, formed => by
    obtain ⟨tree, value, scan⟩ := bound.scannedAs formed
    refine ⟨.upper tree, congrArg TypeArg.upper value, fun rest ends => ?_⟩
    exact ScannedAs.bound .extendsWord trivial (fun _ behind => behind) (scan rest ends)
  | .lower bound, formed => by
    obtain ⟨tree, value, scan⟩ := bound.scannedAs formed
    refine ⟨.lower tree, congrArg TypeArg.lower value, fun rest ends => ?_⟩
    exact ScannedAs.bound .superWord trivial (fun _ behind => behind) (scan rest ends)

theorem TypeArg.scannedAs_list : (args : List TypeArg) → TypeArg.AllWellFormed args →
    ∃ trees, ArgTree.values trees = args ∧
      ∀ rest, ScannedAs (TypeArg.listChars args) (ArgTree.listYield trees) rest
  | [], _ => ⟨[], rfl, fun _ => ScannedAs.nil⟩
  | arg :: args, ⟨formed, others⟩ => by
    obtain ⟨tree, value, scan⟩ := arg.scannedAs formed
    obtain ⟨trees, values, tail⟩ := TypeArg.scannedAs_tail args others
    refine ⟨tree :: trees, by rw [ArgTree.values, value, values], fun rest => ?_⟩
    have inner := (scan _ (TypeArg.noWord_tailChars args rest)).append (tail rest)
    exact ScannedAs.token .less trivial trivial inner

theorem TypeArg.scannedAs_tail : (args : List TypeArg) → TypeArg.AllWellFormed args →
    ∃ trees, ArgTree.values trees = args ∧
      ∀ rest, ScannedAs (TypeArg.tailChars args) (ArgTree.tailYield trees) rest
  | [], _ => ⟨[], rfl, fun _ => ScannedAs.token .greater trivial trivial ScannedAs.nil⟩
  | arg :: args, ⟨formed, others⟩ => by
    obtain ⟨tree, value, scan⟩ := arg.scannedAs formed
    obtain ⟨trees, values, tail⟩ := TypeArg.scannedAs_tail args others
    refine ⟨tree :: trees, by rw [ArgTree.values, value, values], fun rest => ?_⟩
    have inner := (scan _ (TypeArg.noWord_tailChars args rest)).append (tail rest)
    exact ScannedAs.token .comma trivial trivial inner.space

end

/-! ### What is read is well-formed -/

theorem TypeToken.mem_segmentTokens {word : List Char} {words : List (List Char)}
    (member : word ∈ words) : .identifier word ∈ segmentTokens words :=
  List.mem_flatMap.mpr ⟨word, member, List.mem_cons_of_mem _ List.mem_cons_self⟩

mutual

/-- **What is derived from spelled tokens is well-formed.** -/
theorem TypeTree.wellFormed : (tree : TypeTree) → (∀ token ∈ tree.yield, token.Spelled) →
    tree.value.WellFormed
  | .mk word more args pairs dots, spelled => by
    obtain ⟨first, behindWord⟩ := List.forall_mem_cons.mp spelled
    obtain ⟨name, behindName⟩ := List.forall_mem_append.mp behindWord
    obtain ⟨list, _⟩ := List.forall_mem_append.mp behindName
    refine ⟨⟨word, more, ?_, String.toList_ofList⟩, ArgTree.wellFormed_list args list⟩
    refine List.forall_mem_cons.mpr ⟨first, fun other member => ?_⟩
    exact name _ (TypeToken.mem_segmentTokens member)

theorem ArgTree.wellFormed : (tree : ArgTree) → (∀ token ∈ tree.yield, token.Spelled) →
    tree.value.WellFormed
  | .exact type, spelled => type.wellFormed spelled
  | .wildcard, _ => trivial
  | .upper bound, spelled | .lower bound, spelled =>
    bound.wellFormed (List.forall_mem_cons.mp (List.forall_mem_cons.mp spelled).2).2

theorem ArgTree.wellFormed_list : (trees : List ArgTree) →
    (∀ token ∈ ArgTree.listYield trees, token.Spelled) →
      TypeArg.AllWellFormed (ArgTree.values trees)
  | [], _ => trivial
  | arg :: rest, spelled =>
    have inner := List.forall_mem_append.mp (List.forall_mem_cons.mp spelled).2
    ⟨arg.wellFormed inner.1, ArgTree.wellFormed_tail rest inner.2⟩

theorem ArgTree.wellFormed_tail : (trees : List ArgTree) →
    (∀ token ∈ ArgTree.tailYield trees, token.Spelled) →
      TypeArg.AllWellFormed (ArgTree.values trees)
  | [], _ => trivial
  | arg :: rest, spelled =>
    have inner := List.forall_mem_append.mp (List.forall_mem_cons.mp spelled).2
    ⟨arg.wellFormed inner.1, ArgTree.wellFormed_tail rest inner.2⟩

end

/-! ### The round trip -/

namespace TypeName

/-- A well-formed reference is read from its text. -/
theorem parse_text_of_wellFormed {type : TypeName} (formed : type.WellFormed) :
    parse type.text = .ok type := by
  obtain ⟨tree, value, scan⟩ := type.scannedAs formed
  have beginning : Scanned type.text.toList [] [] (type.chars ++ []) := by
    rw [List.append_nil, text, String.toList_ofList]
    exact Scanned.start
  obtain ⟨placed, scanned, kinds⟩ := scan [] TypeToken.noWord_nil beginning
  have some : placed ≠ [] := by
    rintro rfl
    have positive := tree.length_yield_pos
    rw [← kinds] at positive
    cases positive
  rw [parse_of_scanned scanned some, List.nil_append, ofTokens_yield _ kinds.symm, value]

/-- A reference that is read from some text is well-formed. -/
theorem wellFormed_of_parse {input : String} {type : TypeName} (accepted : parse input = .ok type) :
    type.WellFormed := by
  obtain ⟨read, tokens, rest, scanned, rfl | stuck⟩ := TypeToken.exists_scanned input.toList
  · cases tokens with
    | nil =>
      rw [parse_of_no_token scanned] at accepted
      cases accepted
    | cons first others =>
      rw [parse_of_scanned scanned (List.cons_ne_nil first others)] at accepted
      obtain ⟨tree, kinds, rfl⟩ := exists_yield_of_ofTokens accepted
      refine tree.wellFormed fun token member => ?_
      rw [kinds] at member
      obtain ⟨placed, placedMember, rfl⟩ := List.mem_map.mp member
      exact scanned.spelled placed placedMember
  · rw [parse_of_stuck scanned stuck] at accepted
    cases accepted

/-- **Writing and reading undo each other.** A well-formed reference is read from its text, and no other
reference is read from any text. So references that are read have one text only if they are the same, and
the text of what is read is a normal form: what is read from it has this text again. -/
theorem parse_text :
    (∀ type : TypeName, type.WellFormed → parse type.text = .ok type) ∧
    (∀ input type, parse input = .ok type → type.WellFormed) ∧
    (∀ input input' type type', parse input = .ok type → parse input' = .ok type' →
      type.text = type'.text → type = type') ∧
    ∀ input type, parse input = .ok type → (parse type.text).map text = .ok type.text := by
  refine ⟨fun _ => parse_text_of_wellFormed, fun _ _ => wellFormed_of_parse, ?_, ?_⟩
  · intro input input' type type' accepted accepted' same
    have again := parse_text_of_wellFormed (wellFormed_of_parse accepted)
    have again' := parse_text_of_wellFormed (wellFormed_of_parse accepted')
    rw [same, again'] at again
    cases again
    rfl
  · intro input type accepted
    rw [parse_text_of_wellFormed (wellFormed_of_parse accepted)]
    rfl

/-- A bounded wildcard of arrays in the arguments of a qualified name. -/
theorem parse_text_map :
    let map : TypeName := .mk "a.Map" [.exact (.raw "K"), .upper (.mk "V" [] 2)] 0
    parse "a.Map<K, ? extends V[][]>" = .ok map ∧ map.WellFormed ∧
      (parse map.text).map text = .ok "a.Map<K, ? extends V[][]>" ∧
      ∀ type, parse "a.Map<K,? extends V[]...>" = .ok type → type.text = map.text → type = map := by
  intro map
  obtain ⟨reads, formed, injective, normal⟩ := parse_text
  have mapName : IsQualified "a.Map" := ⟨['a'], ["Map".toList], by decide, rfl⟩
  have keyName : IsQualified "K" := ⟨['K'], [], by decide, rfl⟩
  have valueName : IsQualified "V" := ⟨['V'], [], by decide, rfl⟩
  have accepted : parse "a.Map<K, ? extends V[][]>" = .ok map :=
    reads map ⟨mapName, ⟨keyName, trivial⟩, ⟨valueName, trivial⟩, trivial⟩
  exact ⟨accepted, formed _ _ accepted, normal _ _ accepted,
    fun type other => injective _ _ type map other accepted⟩

end TypeName

end ModelPlanner
