/-
**What the scan of a text finds.**

A token is spelled by its characters; an identifier is a word other than the two reserved ones
(`Spelled`). At each place the scan takes the longest token (`Longest`), and `Scanned` says which tokens
it has found, each with the bytes before it, when it has read a part of a text.

* `first?_eq_some_iff`, `first?_eq_none_iff`: the scan takes the longest token, and no token starts where
  it takes none;
* `Scanned.scan_eq`: where the scan of a text has come to, it goes on as the scan of what is left;
* `exists_scanned`: the scan of every text comes to its end, or to a character at which no token starts;
* `scan_eq_ok_iff`, `scan_eq_error`: in the first case it gives the tokens, in the second one the number
  of bytes before the character.
-/

import ModelPlanner.TypeName.Token

namespace ModelPlanner.TypeToken

/-! ### Spellings -/

/-- The characters spell a word. -/
def IsWord : List Char → Prop
  | [] => False
  | first :: rest => isWordStart first = true ∧ ∀ c ∈ rest, isWordPart c = true

/-- The characters spell an identifier: a word that is not reserved. -/
def IsIdentifier (word : List Char) : Prop :=
  IsWord word ∧ word ≠ "extends".toList ∧ word ≠ "super".toList

instance : DecidablePred IsWord
  | [] => inferInstanceAs (Decidable False)
  | first :: rest =>
    decidable_of_iff (isWordStart first = true ∧ rest.all isWordPart = true) <| by
      rw [List.all_eq_true]
      rfl

instance (word : List Char) : Decidable (IsIdentifier word) :=
  inferInstanceAs (Decidable (IsWord word ∧ word ≠ "extends".toList ∧ word ≠ "super".toList))

/-- The characters of the token can stand in a text as this token. -/
def Spelled : TypeToken → Prop
  | .identifier word => IsIdentifier word
  | _ => True

@[simp]
theorem chars_ofWord (word : List Char) : (ofWord word).chars = word := by
  unfold ofWord
  split
  · next reserved => exact reserved.symm
  · split
    · next reserved => exact reserved.symm
    · rfl

theorem spelled_ofWord {word : List Char} (isWord : IsWord word) : (ofWord word).Spelled := by
  unfold ofWord
  split
  · trivial
  · next notExtends =>
    split
    · trivial
    · next notSuper => exact ⟨isWord, notExtends, notSuper⟩

theorem ofWord_of_identifier {word : List Char} (identifier : IsIdentifier word) :
    ofWord word = .identifier word := by
  obtain ⟨_, notExtends, notSuper⟩ := identifier
  unfold ofWord
  rw [if_neg notExtends, if_neg notSuper]

theorem isWord_extends : IsWord "extends".toList := by decide

theorem isWord_super : IsWord "super".toList := by decide

/-! ### The longest token -/

/-- The token is the longest one that the characters start with, and the others stand after it. -/
structure Longest (cs : List Char) (token : TypeToken) (after : List Char) : Prop where
  spelled : token.Spelled
  split : cs = token.chars ++ after
  longest : ∀ (other : TypeToken) (rest : List Char), other.Spelled → cs = other.chars ++ rest →
    other.chars.length ≤ token.chars.length

/-- A word is taken with all word characters behind it. -/
theorem first?_word {word : List Char} (isWord : IsWord word) (rest : List Char) :
    first? (word ++ rest) =
      some (ofWord (word ++ rest.takeWhile isWordPart), rest.dropWhile isWordPart) := by
  cases word with
  | nil => exact isWord.elim
  | cons first more =>
    obtain ⟨starts, parts⟩ := isWord
    have taken : (more ++ rest).takeWhile isWordPart = more ++ rest.takeWhile isWordPart :=
      List.takeWhile_append_of_pos parts
    have left : (more ++ rest).dropWhile isWordPart = rest.dropWhile isWordPart :=
      List.dropWhile_append_of_pos parts
    rw [List.cons_append, List.cons_append, ← taken, ← left]
    unfold first?
    split
    case h_1 => contradiction
    case h_10 c tail _ _ _ _ _ _ _ _ same =>
      obtain ⟨rfl, rfl⟩ := List.cons.inj same
      rw [if_pos starts]
    all_goals
      next same =>
        obtain ⟨rfl, _⟩ := List.cons.inj same
        exact absurd starts (by decide)

/-- Nothing in the rest makes the token longer: no word goes on, and no dot follows a dot. -/
def Closed (rest : List Char) : TypeToken → Prop
  | .identifier _ | .extendsWord | .superWord => ∀ c ∈ rest.head?, isWordPart c = false
  | .dot => rest.head? ≠ some '.'
  | _ => True

/-- A dot is taken alone, unless two more dots follow it. -/
theorem first?_dot (rest : List Char) :
    (∃ tail, rest = '.' :: '.' :: tail ∧ first? ('.' :: rest) = some (.ellipsis, tail)) ∨
      first? ('.' :: rest) = some (.dot, rest) := by
  by_cases dots : ∃ tail, rest = '.' :: '.' :: tail
  · obtain ⟨tail, rfl⟩ := dots
    exact Or.inl ⟨tail, rfl, rfl⟩
  · right
    unfold first?
    split
    case h_2 tail same => exact absurd ⟨tail, (List.cons.inj same).2⟩ dots
    case h_3 same => rw [(List.cons.inj same).2]
    all_goals grind

/-- A token that nothing makes longer is taken. -/
theorem first?_of_closed {token : TypeToken} (spelled : token.Spelled) {rest : List Char}
    (closed : Closed rest token) : first? (token.chars ++ rest) = some (token, rest) := by
  have word : ∀ {word : List Char}, IsWord word → (∀ c ∈ rest.head?, isWordPart c = false) →
      first? (word ++ rest) = some (ofWord word, rest) := by
    intro word isWord ended
    rw [first?_word isWord]
    cases rest with
    | nil => simp
    | cons c tail => simp [ended c rfl]
  cases token with
  | identifier word' =>
    rw [← ofWord_of_identifier spelled]
    exact (congrArg _ (congrArg (· ++ rest) (chars_ofWord word'))).trans (word spelled.1 closed)
  | extendsWord => exact word isWord_extends closed
  | superWord => exact word isWord_super closed
  | dot =>
    rcases first?_dot rest with ⟨tail, rfl, _⟩ | taken
    · exact absurd rfl closed
    · exact taken
  | _ => rfl

/-- Some token at least as long as a spelled one is taken. -/
theorem first?_reaches {token : TypeToken} (spelled : token.Spelled) (rest : List Char) :
    ∃ found after, first? (token.chars ++ rest) = some (found, after) ∧
      token.chars.length ≤ found.chars.length := by
  have word : ∀ {word : List Char}, IsWord word → ∃ found after,
      first? (word ++ rest) = some (found, after) ∧ word.length ≤ found.chars.length := by
    intro word isWord
    refine ⟨_, _, first?_word isWord rest, ?_⟩
    rw [chars_ofWord, List.length_append]
    exact Nat.le_add_right _ _
  cases token with
  | identifier word' => exact word spelled.1
  | extendsWord => exact word isWord_extends
  | superWord => exact word isWord_super
  | dot =>
    rcases first?_dot rest with ⟨tail, rfl, taken⟩ | taken
    · exact ⟨_, _, taken, by decide⟩
    · exact ⟨_, _, taken, Nat.le_refl _⟩
  | _ => exact ⟨_, rest, rfl, Nat.le_refl _⟩

/-- Spelled tokens are equal if their characters are. -/
theorem chars_injective {first second : TypeToken} (firstSpelled : first.Spelled)
    (secondSpelled : second.Spelled) (same : first.chars = second.chars) : first = second := by
  have closed : ∀ token, Closed [] token := by
    intro token
    cases token <;> simp [Closed]
  have one := first?_of_closed firstSpelled (closed first)
  have other := first?_of_closed secondSpelled (closed second)
  rw [same, other] at one
  cases one
  rfl

/-- What is taken is a token that the characters start with. -/
theorem split_of_first? {cs after : List Char} {token : TypeToken}
    (taken : first? cs = some (token, after)) : token.Spelled ∧ cs = token.chars ++ after := by
  unfold first? at taken
  split at taken
  case h_1 => cases taken
  case h_10 c tail _ _ _ _ _ _ _ _ =>
    split at taken
    · next starts =>
      cases taken
      refine ⟨spelled_ofWord ⟨starts, fun other part => ?_⟩, ?_⟩
      · exact List.all_eq_true.mp List.all_takeWhile other part
      · rw [chars_ofWord, List.cons_append, List.takeWhile_append_dropWhile]
    · cases taken
  all_goals
    cases taken
    exact ⟨trivial, rfl⟩

/-- **The scan takes the longest token.** -/
theorem first?_eq_some_iff {cs after : List Char} {token : TypeToken} :
    first? cs = some (token, after) ↔ Longest cs token after := by
  constructor
  · intro taken
    obtain ⟨spelled, split⟩ := split_of_first? taken
    refine ⟨spelled, split, fun other rest otherSpelled otherSplit => ?_⟩
    obtain ⟨found, left, reached, atLeast⟩ := first?_reaches otherSpelled rest
    rw [← otherSplit, taken] at reached
    cases reached
    exact atLeast
  · rintro ⟨spelled, split, longest⟩
    obtain ⟨found, left, reached, atLeast⟩ := first?_reaches spelled after
    rw [← split] at reached
    obtain ⟨foundSpelled, foundSplit⟩ := split_of_first? reached
    -- Neither of the two tokens is longer, so they have the same characters.
    have sameLength : found.chars.length = token.chars.length :=
      Nat.le_antisymm (longest found left foundSpelled foundSplit) atLeast
    obtain ⟨sameChars, rfl⟩ := List.append_inj (foundSplit.symm.trans split) sameLength
    rw [reached, chars_injective foundSpelled spelled sameChars]

/-- No token starts where the scan takes none. -/
theorem first?_eq_none_iff {cs : List Char} :
    first? cs = none ↔ ∀ (token : TypeToken) (after : List Char), token.Spelled →
      cs ≠ token.chars ++ after := by
  constructor
  · rintro none token after spelled rfl
    obtain ⟨_, _, reached, _⟩ := first?_reaches spelled after
    rw [none] at reached
    cases reached
  · intro never
    cases taken : first? cs with
    | none => rfl
    | some found =>
      obtain ⟨spelled, split⟩ := split_of_first? taken
      exact absurd split (never _ _ spelled)

/-! ### The scan of a text -/

/-- The scan of a text has read a part of it and found tokens there, each behind a number of bytes, and
the rest is left. -/
inductive Scanned (text : List Char) : List Char → List Placed → List Char → Prop
  | start : Scanned text [] [] text
  | space {read rest : List Char} {tokens : List Placed} {c : Char} :
      Scanned text read tokens (c :: rest) → Text.isSpace c = true → Scanned text (read ++ [c]) tokens rest
  | token {read rest after : List Char} {tokens : List Placed} {token : TypeToken} :
      Scanned text read tokens rest → Longest rest token after →
        Scanned text (read ++ token.chars)
          (tokens ++ [⟨token, (String.ofList read).utf8ByteSize⟩]) after

/-- The scan cannot go on: the next character is no space, and no token starts there. -/
def Stuck (rest : List Char) : Prop :=
  (∃ c ∈ rest.head?, Text.isSpace c = false) ∧
    ∀ (token : TypeToken) (after : List Char), token.Spelled → rest ≠ token.chars ++ after

/-- A token starts with a character that is no space. -/
theorem Longest.exists_head {cs after : List Char} {token : TypeToken}
    (longest : Longest cs token after) : ∃ c tail, cs = c :: tail ∧ Text.isSpace c = false := by
  have solid : ∀ c, isWordStart c = true → Text.isSpace c = false := by
    intro c starts
    cases spaced : Text.isSpace c with
    | false => rfl
    | true =>
      simp only [Text.isSpace, Bool.or_eq_true, beq_iff_eq] at spaced
      rcases spaced with ((rfl | rfl) | rfl) | rfl <;> exact absurd starts (by decide)
  obtain ⟨spelled, rfl, _⟩ := longest
  cases token with
  | identifier word =>
    cases word with
    | nil => exact spelled.1.elim
    | cons first more => exact ⟨first, more ++ after, rfl, solid first spelled.1.1⟩
  | _ => exact ⟨_, _, rfl, by decide⟩

section Steps

variable {offset : Nat}

theorem scan_space {c : Char} {rest : List Char} (space : Text.isSpace c = true) :
    scan offset (c :: rest) = scan (offset + 1) rest := by
  rw [scan, if_pos space]

theorem scan_token {cs after : List Char} {token : TypeToken} (longest : Longest cs token after) :
    scan offset cs = (scan (offset + token.chars.length) after).map (⟨token, offset⟩ :: ·) := by
  obtain ⟨c, tail, rfl, solid⟩ := longest.exists_head
  have taken := first?_eq_some_iff.mpr longest
  rw [scan, if_neg (by simp [solid])]
  split
  · next none => simp [taken] at none
  · next found =>
    rw [taken] at found
    cases found
    rfl

theorem scan_stuck {rest : List Char} (stuck : Stuck rest) : scan offset rest = .error offset := by
  obtain ⟨⟨c, head, solid⟩, never⟩ := stuck
  cases rest with
  | nil => cases head
  | cons first tail =>
    cases head
    have none := first?_eq_none_iff.mpr never
    rw [scan, if_neg (by simp [solid])]
    split
    · rfl
    · next found => simp [none] at found

end Steps

/-! ### Bytes -/

/-- Characters of one byte each have as many bytes as characters. -/
theorem utf8ByteSize_ofList {cs : List Char} (single : ∀ c ∈ cs, c.utf8Size = 1) :
    (String.ofList cs).utf8ByteSize = cs.length := by
  induction cs with
  | nil => rfl
  | cons c cs ih =>
    have sizes := ih fun other member => single other (List.mem_cons_of_mem c member)
    rw [← List.singleton_append, String.ofList_append, String.utf8ByteSize_append, sizes,
      ← String.singleton_eq_ofList, String.utf8ByteSize_singleton, single c List.mem_cons_self,
      List.length_append, List.length_singleton]

theorem utf8Size_of_isSpace {c : Char} (space : Text.isSpace c = true) : c.utf8Size = 1 := by
  simp only [Text.isSpace, Bool.or_eq_true, beq_iff_eq] at space
  rcases space with ((rfl | rfl) | rfl) | rfl <;> rfl

theorem utf8Size_of_isWordPart {c : Char} (part : isWordPart c = true) : c.utf8Size = 1 := by
  have letter : c.isAlpha = (decide ('A'.val ≤ c.val ∧ c.val ≤ 'Z'.val) ||
      ('a'.val ≤ c.val && c.val ≤ 'z'.val)) := rfl
  rw [Char.utf8Size_eq_one_iff, UInt32.le_iff_toNat_le]
  simp only [isWordPart, isWordStart, letter, Char.isDigit, Bool.or_eq_true, Bool.and_eq_true,
    decide_eq_true_eq, beq_iff_eq, UInt32.le_iff_toNat_le, ge_iff_le] at part
  rcases part with (((upper | lower) | rfl) | rfl) | digit
  · exact Nat.le_trans upper.2 (by decide)
  · exact Nat.le_trans lower.2 (by decide)
  · decide
  · decide
  · exact Nat.le_trans digit.2 (by decide)

/-- The characters of a token have one byte each. -/
theorem Spelled.utf8Size_eq {token : TypeToken} (spelled : token.Spelled) :
    ∀ c ∈ token.chars, c.utf8Size = 1 := by
  cases token with
  | identifier word =>
    cases word with
    | nil => exact spelled.1.elim
    | cons first rest =>
      obtain ⟨⟨starts, parts⟩, _⟩ := spelled
      intro c member
      rcases List.mem_cons.mp member with rfl | later
      · exact utf8Size_of_isWordPart (by rw [isWordPart, starts, Bool.true_or])
      · exact utf8Size_of_isWordPart (parts c later)
  | _ =>
    -- The quantifier over the characters of a list, not over all characters, is evaluated.
    intro c member
    have single := List.all_eq_true.mp (show List.all _ (·.utf8Size == 1) = true by decide) c member
    exact beq_iff_eq.mp single

/-! ### Where a scan has come to -/

namespace Scanned

variable {text read rest : List Char} {tokens : List Placed}

/-- What the scan has read has one byte for each character. -/
theorem utf8ByteSize_eq (scanned : Scanned text read tokens rest) :
    (String.ofList read).utf8ByteSize = read.length := by
  apply utf8ByteSize_ofList
  induction scanned with
  | start => exact nofun
  | space _ space ih =>
    intro c member
    rcases List.mem_append.mp member with old | new
    · exact ih c old
    · rw [List.mem_singleton.mp new]
      exact utf8Size_of_isSpace space
  | token _ longest ih =>
    intro c member
    rcases List.mem_append.mp member with old | new
    · exact ih c old
    · exact longest.spelled.utf8Size_eq c new

/-- The identifiers among the tokens are spelled as such. -/
theorem spelled (scanned : Scanned text read tokens rest) :
    ∀ placed ∈ tokens, placed.token.Spelled := by
  induction scanned with
  | start => exact nofun
  | space _ _ ih => exact ih
  | token _ longest ih =>
    intro placed member
    rcases List.mem_append.mp member with old | new
    · exact ih placed old
    · rw [List.mem_singleton.mp new]
      exact longest.spelled

/-- **A scan goes on with what is left**, behind the tokens that it has found. -/
theorem scan_eq (scanned : Scanned text read tokens rest) :
    scan 0 text = (scan read.length rest).map (tokens ++ ·) := by
  induction scanned with
  | start => cases scan 0 text <;> rfl
  | @space read rest tokens c _ space ih =>
    rw [ih, scan_space space, List.length_append, List.length_singleton]
  | @token read rest after tokens token before longest ih =>
    rw [ih, scan_token longest, List.length_append, before.utf8ByteSize_eq]
    cases scan (read.length + token.chars.length) after with
    | error offset => rfl
    | ok later =>
      show Except.ok (tokens ++ ⟨token, read.length⟩ :: later) = _
      rw [List.append_cons]
      rfl

/-- A scan is at the end of the text, or it is stuck, or it goes on. -/
theorem progress (scanned : Scanned text read tokens rest) :
    rest = [] ∨ Stuck rest ∨ ∃ read' tokens' rest', Scanned text read' tokens' rest' ∧
      rest'.length < rest.length := by
  cases rest with
  | nil => exact Or.inl rfl
  | cons c tail =>
    right
    cases space : Text.isSpace c with
    | true => exact Or.inr ⟨_, _, tail, scanned.space space, Nat.lt_succ_self _⟩
    | false =>
      cases taken : first? (c :: tail) with
      | none => exact Or.inl ⟨⟨c, rfl, space⟩, first?_eq_none_iff.mp taken⟩
      | some found =>
        obtain ⟨token, after⟩ := found
        exact Or.inr ⟨_, _, after, scanned.token (first?_eq_some_iff.mp taken),
          length_of_first? taken⟩

/-- From where it has come to a scan reaches the end of the text or gets stuck. -/
theorem exists_last (scanned : Scanned text read tokens rest) :
    ∃ read' tokens' rest', Scanned text read' tokens' rest' ∧ (rest' = [] ∨ Stuck rest') := by
  induction size : rest.length using Nat.strongRecOn generalizing read tokens rest with
  | ind size ih =>
    rcases scanned.progress with ended | stuck | ⟨_, _, rest', further, shorter⟩
    · exact ⟨_, _, _, scanned, Or.inl ended⟩
    · exact ⟨_, _, _, scanned, Or.inr stuck⟩
    · exact ih _ (size ▸ shorter) further rfl

end Scanned

/-- The scan of every text reaches its end or gets stuck. -/
theorem exists_scanned (text : List Char) :
    ∃ read tokens rest, Scanned text read tokens rest ∧ (rest = [] ∨ Stuck rest) :=
  Scanned.start.exists_last

/-- A stuck scan fails with the number of bytes before the character at which no token starts. -/
theorem scan_eq_error {text read rest : List Char} {tokens : List Placed}
    (scanned : Scanned text read tokens rest) (stuck : Stuck rest) :
    scan 0 text = .error (String.ofList read).utf8ByteSize := by
  rw [scanned.scan_eq, scan_stuck stuck, scanned.utf8ByteSize_eq]
  rfl

/-- **A scan succeeds with the tokens that it has found at the end of the text.** -/
theorem scan_eq_ok_iff {text : List Char} {tokens : List Placed} :
    scan 0 text = .ok tokens ↔ ∃ read, Scanned text read tokens [] := by
  have ended : ∀ {read tokens}, Scanned text read tokens [] → scan 0 text = .ok tokens := by
    intro read tokens scanned
    rw [scanned.scan_eq, scan]
    exact congrArg Except.ok (List.append_nil tokens)
  constructor
  · intro done
    obtain ⟨read, tokens', rest, scanned, rfl | stuck⟩ := exists_scanned text
    · rw [ended scanned] at done
      cases done
      exact ⟨read, scanned⟩
    · rw [scan_eq_error scanned stuck] at done
      cases done
  · rintro ⟨read, scanned⟩
    exact ended scanned

end ModelPlanner.TypeToken
