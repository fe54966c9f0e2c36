/-
**Integers in code.**

An integer is spelled by its sign, its decimal digits, any number of underscores between two digits, and
perhaps an `L` or `l` behind them (`Spells`).

* `readInt?_of_spells`: the reader of integers leaves out what is no digit, and so finds every integer whose
  size is in range;
* `readDecimal?_interrupted`: a decimal number ends at an underscore or a letter other than `e`, so that
  the reader of floating point numbers takes the digits of an integer only if nothing else is among them;
* `literal_of_spelled`: hence code that spells an integer of 64 bits is read as it, the least one excepted.
-/

import ModelPlanner.Value.Literal

namespace ModelPlanner.Value

open Number (digitsOfNat natOfDigits)

/-- Digits with any number of underscores between two of them. -/
inductive Grouped : List Char → List Char → Prop
  | last (digit : Char) : Grouped [digit] [digit]
  | next (digit : Char) (count : Nat) {digits code : List Char} :
      Grouped digits code → Grouped (digit :: digits) (digit :: (List.replicate count '_' ++ code))

/-- The sign of an integer, if it has one. -/
def sign (number : Int) : List Char := if number < 0 then ['-'] else []

/-- The code spells the integer: its sign, its digits in groups, and perhaps a suffix of long integers. -/
inductive Spells (number : Int) : List Char → Prop
  | signed {digits suffix : List Char} : Grouped (digitsOfNat number.natAbs) digits →
      suffix ∈ [[], ['L'], ['l']] → Spells number (sign number ++ digits ++ suffix)

/-! ### Digits in groups -/

theorem isDigit_of_mem_digitsOfNat {n : Nat} {c : Char} (member : c ∈ digitsOfNat n) :
    c.isDigit = true :=
  Nat.isDigit_of_mem_toDigits (by decide) (by decide) member

namespace Grouped

variable {digits code : List Char}

theorem head?_eq (grouped : Grouped digits code) : code.head? = digits.head? := by
  cases grouped <;> rfl

theorem getLast?_eq (grouped : Grouped digits code) : code.getLast? = digits.getLast? := by
  induction grouped with
  | last => rfl
  | next digit count grouped ih =>
    cases grouped <;> simp_all [List.getLast?_cons, List.getLast?_append]

/-- Digits need no underscores. -/
theorem plain (some : digits ≠ []) : Grouped digits digits := by
  induction digits with
  | nil => exact absurd rfl some
  | cons digit digits ih =>
    cases digits with
    | nil => exact .last digit
    | cons next digits => exact .next digit 0 (ih (List.cons_ne_nil next digits))

/-- Without their underscores the groups are the digits. -/
theorem filter_eq (grouped : Grouped digits code) (plain : '_' ∉ digits) :
    code.filter (· != '_') = digits := by
  induction grouped with
  | last digit =>
    have differ : digit ≠ '_' := fun same => plain (by simp [same])
    simp [differ]
  | next digit count grouped ih =>
    obtain ⟨differ, rest⟩ := not_or.mp (mt List.mem_cons.mpr plain)
    simp [Ne.symm differ, List.filter_append, ih rest]

/-- The groups are the digits, or there is an underscore behind some of these. -/
theorem eq_or_interrupted (grouped : Grouped digits code) :
    code = digits ∨ ∃ front back, front ≠ [] ∧ (∀ c ∈ front, c ∈ digits) ∧ code = front ++ '_' :: back := by
  induction grouped with
  | last => exact Or.inl rfl
  | @next digit count digits code grouped ih =>
    cases count with
    | zero =>
      rcases ih with rfl | ⟨front, back, _, known, rfl⟩
      · exact Or.inl rfl
      · exact Or.inr ⟨digit :: front, back, by simp, by simpa using fun c member => Or.inr (known c member),
          rfl⟩
    | succ count => exact Or.inr ⟨[digit], _, by simp, by simp, rfl⟩

end Grouped

/-! ### Reading integers -/

/-- The digits of a natural number are read as it, if it is in range. -/
theorem readMagnitude?_digitsOfNat (n : Nat) : readMagnitude? (digitsOfNat n) = int64? n := by
  have digits : (digitsOfNat n).all Char.isDigit = true :=
    List.all_eq_true.mpr fun c => isDigit_of_mem_digitsOfNat
  have some : (digitsOfNat n).isEmpty = false := List.isEmpty_eq_false_iff.mpr Nat.toDigits_ne_nil
  have value : natOfDigits 0 (digitsOfNat n) = n := Nat.ofDigitChars_ten_toDigits
  have noMark {c : Char} {rest : List Char} (noDigit : c.isDigit = false) :
      digitsOfNat n ≠ '0' :: c :: rest := by
    intro same
    have isDigit := isDigit_of_mem_digitsOfNat (n := n) (c := c) (by simp [same])
    rw [noDigit] at isDigit
    cases isDigit
  unfold readMagnitude?
  split
  · next same => exact absurd same (noMark rfl)
  · next same => exact absurd same (noMark rfl)
  · simp [digits, some, value]

/-- A suffix of long integers is left out behind a digit. -/
theorem dropLongSuffix_append {digits suffix : List Char}
    (digit : ∀ c ∈ digits.getLast?, c.isDigit = true) (known : suffix ∈ [[], ['L'], ['l']]) :
    dropLongSuffix (digits ++ suffix) = digits := by
  have noSuffix {c : Char} (noDigit : c.isDigit = false) : digits.getLast? ≠ some c := by
    intro last
    have isDigit := digit c last
    rw [noDigit] at isDigit
    cases isDigit
  simp only [List.mem_cons, List.not_mem_nil, or_false] at known
  unfold dropLongSuffix
  rcases known with rfl | rfl | rfl
  · rw [List.append_nil]
    exact if_neg (not_or.mpr ⟨noSuffix rfl, noSuffix rfl⟩)
  · simp
  · simp

/-- The digits of an integer behind its sign end with a digit. -/
theorem Grouped.isDigit_of_getLast? {number : Int} {code : List Char}
    (grouped : Grouped (digitsOfNat number.natAbs) code) :
    ∀ c ∈ (sign number ++ code).getLast?, c.isDigit = true := by
  have some : digitsOfNat number.natAbs ≠ [] := Nat.toDigits_ne_nil
  intro c last
  rw [List.getLast?_append, grouped.getLast?_eq, List.getLast?_eq_some_getLast some, Option.some_or] at last
  cases last
  exact isDigit_of_mem_digitsOfNat (List.getLast_mem some)

/-- The sign of an integer and its digits are read as it, if its size is in range. -/
theorem readInt?_of_spells {number : Int} {code : List Char} (spells : Spells number code) :
    readInt? code =
      if number.natAbs ≤ Int64.maxValue.toInt then some (Int64.ofInt number) else none := by
  obtain ⟨grouped, known⟩ := spells
  have noUnderscore : '_' ∉ digitsOfNat number.natAbs := fun member =>
    absurd (isDigit_of_mem_digitsOfNat member) (by decide)
  have plainSign : (sign number).filter (· != '_') = sign number := by
    unfold sign
    split <;> rfl
  have size : int64? number.natAbs =
      if number.natAbs ≤ Int64.maxValue.toInt then some (Int64.ofInt number.natAbs) else none := by
    have lower : Int64.minValue.toInt ≤ number.natAbs := by
      rw [Int64.toInt_minValue]
      omega
    simp only [int64?, lower, true_and]
  unfold readInt?
  rw [dropLongSuffix_append grouped.isDigit_of_getLast? known, List.filter_append, plainSign,
    grouped.filter_eq noUnderscore]
  by_cases negative : number < 0
  · rw [sign, if_pos negative, List.singleton_append]
    have turned : Int64.ofInt number = -Int64.ofInt number.natAbs := by
      rw [← Int64.ofInt_neg]
      congr 1
      omega
    simp only [readMagnitude?_digitsOfNat, size, turned]
    split <;> rfl
  · rw [sign, if_neg negative, List.nil_append]
    have same : (number.natAbs : Int) = number := by omega
    rw [same] at size
    split
    · next digits signed =>
      have isDigit := isDigit_of_mem_digitsOfNat (n := number.natAbs) (c := '-') (by simp [signed])
      cases isDigit
    · rw [readMagnitude?_digitsOfNat, same, size]

/-! ### Integers as floating point numbers -/

theorem readSign_sign (number : Int) {digits : List Char} (digit : ∀ c ∈ digits.head?, c.isDigit = true) :
    Number.readSign (sign number ++ digits) = (decide (number < 0), digits) := by
  unfold sign
  by_cases negative : number < 0
  · simp [negative, Number.readSign]
  · rw [if_neg negative, decide_eq_false negative, List.nil_append]
    unfold Number.readSign
    split
    · exact absurd (digit '-' rfl) (by decide)
    · exact absurd (digit '+' rfl) (by decide)
    · rfl

/-- A decimal number goes on with digits, a point or an exponent, and with nothing else. -/
theorem readDecimal?_interrupted (number : Int) {front back : List Char} {c : Char} (some : front ≠ [])
    (digits : ∀ digit ∈ front, digit.isDigit = true) (noDigit : c.isDigit = false) (noPoint : c ≠ '.')
    (noMark : (c == 'e' || c == 'E') = false) :
    Number.readDecimal? (sign number ++ (front ++ c :: back)) = none := by
  have starts : ∀ first ∈ (front ++ c :: back).head?, first.isDigit = true := by
    cases front with
    | nil => exact absurd rfl some
    | cons first front => simpa using digits first List.mem_cons_self
  have whole : (front ++ c :: back).takeWhile Char.isDigit = front := by
    rw [List.takeWhile_append_of_pos digits]
    simp [noDigit]
  have tail : (front ++ c :: back).dropWhile Char.isDigit = c :: back := by
    rw [List.dropWhile_append_of_pos digits]
    simp [noDigit]
  unfold Number.readDecimal?
  simp only [readSign_sign number starts, whole, tail]
  split
  · next point => exact absurd (List.cons.inj point).1 noPoint
  · simp [Number.readExponent?, noMark]

namespace Spells

variable {number : Int} {code : List Char} (spells : Spells number code)
include spells

/-- What spells an integer starts with a minus sign or a digit. -/
theorem start : ∀ c ∈ code.head?, c = '-' ∨ c.isDigit = true := by
  obtain ⟨grouped, _⟩ := spells
  have some : digitsOfNat number.natAbs ≠ [] := Nat.toDigits_ne_nil
  intro c first
  by_cases negative : number < 0
  · rw [sign, if_pos negative] at first
    exact Or.inl (Option.some.inj first).symm
  · rw [sign, if_neg negative, List.nil_append, List.head?_append, grouped.head?_eq,
      List.head?_eq_some_head some, Option.some_or] at first
    cases first
    exact Or.inr (isDigit_of_mem_digitsOfNat (List.head_mem some))

/-- What spells an integer ends with a suffix of long integers or a digit. -/
theorem finish : ∀ c ∈ code.getLast?, c = 'L' ∨ c = 'l' ∨ c.isDigit = true := by
  obtain ⟨grouped, known⟩ := spells
  simp only [List.mem_cons, List.not_mem_nil, or_false] at known
  rcases known with rfl | rfl | rfl
  · intro c last
    rw [List.append_nil] at last
    exact Or.inr (Or.inr (grouped.isDigit_of_getLast? c last))
  · simp
  · simp

/-- Only a spelling without underscores and suffix is a decimal number. -/
theorem eq_or_interrupted :
    code = Number.DecimalLayout.signed number ∨ Number.readDecimal? code = none := by
  obtain ⟨grouped, known⟩ := spells
  have plain : sign number ++ digitsOfNat number.natAbs = Number.DecimalLayout.signed number := by
    unfold sign Number.DecimalLayout.signed
    split <;> rfl
  have digits : ∀ c ∈ digitsOfNat number.natAbs, c.isDigit = true :=
    fun c => isDigit_of_mem_digitsOfNat
  have some : digitsOfNat number.natAbs ≠ [] := Nat.toDigits_ne_nil
  simp only [List.mem_cons, List.not_mem_nil, or_false] at known
  rcases grouped.eq_or_interrupted with rfl | ⟨front, back, frontSome, taken, rfl⟩
  · rw [List.append_assoc]
    rcases known with rfl | rfl | rfl
    · exact Or.inl (by rw [List.append_nil, plain])
    · exact Or.inr (readDecimal?_interrupted number some digits rfl (by decide) rfl)
    · exact Or.inr (readDecimal?_interrupted number some digits rfl (by decide) rfl)
  · right
    rw [List.append_assoc, List.append_assoc, List.cons_append]
    exact readDecimal?_interrupted number frontSome (fun c member => digits c (taken c member)) rfl
      (by decide) rfl

/-- What spells an integer has no suffix of floating point numbers, so it is read as a decimal number or not
at all. -/
theorem readFloat?_eq_none (interrupted : Number.readDecimal? code = none) : readFloat? code = none := by
  have noSuffix : ∀ c ∈ code.reverse.head?, isFloatSuffix c = false := by
    intro c last
    rw [List.head?_reverse] at last
    rw [← Bool.not_eq_true, isFloatSuffix]
    simp only [Bool.or_eq_true, beq_iff_eq]
    rintro (((rfl | rfl) | rfl) | rfl) <;> exact absurd (spells.finish _ last) (by decide)
  have kept : code.reverse.dropWhile isFloatSuffix = code.reverse := by
    cases turned : code.reverse with
    | nil => rfl
    | cons c rest =>
      rw [turned] at noSuffix
      exact List.dropWhile_cons_of_neg (by simp [noSuffix c rfl])
  rw [readFloat?, kept, List.reverse_reverse, interrupted, ite_self]

end Spells

/-! ### Literals -/

/-- Code that starts with a minus sign or a digit is a number or an expression. -/
theorem ofTrimmed_of_start {code : List Char} (start : ∀ c ∈ code.head?, c = '-' ∨ c.isDigit = true) :
    ofTrimmed code =
      match readInt? code, readFloat? code with
      | some number, _ => .int number
      | none, some bits => .float bits
      | none, none => .expression (String.ofList code) := by
  have noStart {c : Char} (other : ¬ (c = '-' ∨ c.isDigit = true)) : code.head? ≠ some c :=
    fun first => other (start c first)
  have noWord {word : List Char} (letter : word.head? ∈ [some 'n', some 't', some 'f']) : code ≠ word := by
    rintro rfl
    simp only [List.mem_cons, List.not_mem_nil, or_false] at letter
    rcases letter with first | first | first <;> exact noStart (by decide) first
  have noQuote {quote : Char} (other : ¬ (quote = '-' ∨ quote.isDigit = true)) :
      Text.between? quote code = none := by
    cases code with
    | nil => rfl
    | cons first rest =>
      refine if_neg fun quoted => noStart other ?_
      rw [← quoted.1, List.head?_cons]
  unfold ofTrimmed readCharacter?
  rw [if_neg (noWord (by decide)), if_neg (noWord (by decide)), if_neg (noWord (by decide)),
    noQuote (by decide), noQuote (by decide)]
  cases readInt? code with
  | some number => rfl
  | none => cases readFloat? code <;> rfl

/-- Digits are no blanks. -/
theorem isBlank_of_isDigit {c : Char} (digit : c.isDigit = true) : Text.isBlank c = false := by
  have digits : ∀ point < 58, 48 ≤ point → Text.inRanges Text.blankRanges point = false := by decide
  simp only [Char.isDigit, Bool.and_eq_true, decide_eq_true_eq, ge_iff_le, UInt32.le_iff_toNat_le] at digit
  exact digits c.toNat (Nat.lt_succ_of_le digit.2) digit.1

namespace Spells

variable {code : List Char}

/-- What spells an integer is read without the blanks around it. -/
theorem ofLiteral_eq {number : Int} {before after : List Char} (spells : Spells number code)
    (blank : ∀ c ∈ before ++ after, Text.isBlank c = true) :
    ofLiteral (String.ofList (before ++ code ++ after)) = ofTrimmed code := by
  refine ofLiteral_surrounded blank (fun c first => ?_) fun c last => ?_
  · rcases spells.start c first with rfl | digit
    · rfl
    · exact isBlank_of_isDigit digit
  · rcases spells.finish c last with rfl | rfl | digit
    · rfl
    · rfl
    · exact isBlank_of_isDigit digit

/-- An integer other than the least one has a size in range. -/
theorem ofTrimmed_of_ne_least {number : Int64} (spells : Spells number.toInt code)
    (other : number ≠ Int64.minValue) : ofTrimmed code = .int number := by
  have differ : number.toInt ≠ -2 ^ 63 := by
    rw [← Int64.toInt_minValue]
    exact mt Int64.toInt_inj.mp other
  have size : number.toInt.natAbs ≤ Int64.maxValue.toInt := by
    have lower := number.le_toInt
    have upper := number.toInt_le
    rw [Int64.toInt_maxValue] at upper ⊢
    omega
  rw [ofTrimmed_of_start spells.start, readInt?_of_spells spells, if_pos size, Int64.ofInt_toInt]

/-- The least integer is read as a floating point number, if it is one by its spelling. -/
theorem ofTrimmed_least (spells : Spells Int64.minValue.toInt code) :
    ofTrimmed code =
      if code = Number.DecimalLayout.signed Int64.minValue.toInt then
        .float (UInt64.ofNat (Number.binary64.encode (datumOfInt Int64.minValue)))
      else .expression (String.ofList code) := by
  have size : ¬ Int64.minValue.toInt.natAbs ≤ Int64.maxValue.toInt := by decide
  by_cases plain : code = Number.DecimalLayout.signed Int64.minValue.toInt
  · rw [if_pos plain, plain]
    decide +kernel
  · have interrupted := spells.eq_or_interrupted.resolve_left plain
    rw [if_neg plain, ofTrimmed_of_start spells.start, readInt?_of_spells spells, if_neg size,
      spells.readFloat?_eq_none interrupted]

end Spells

/-- **Code that spells an integer of 64 bits is read as it, the least one excepted**: its size is out of
range. Its digits are read as a floating point number; with underscores or a suffix it is an expression. -/
theorem literal_of_spelled {number : Int64} {code before after : List Char}
    (spells : Spells number.toInt code) (blank : ∀ c ∈ before ++ after, Text.isBlank c = true) :
    (ofLiteral (String.ofList (before ++ code ++ after)) = .int number ↔ number ≠ Int64.minValue) ∧
      (number = Int64.minValue → ofLiteral (String.ofList (before ++ code ++ after)) =
        if code = Number.DecimalLayout.signed number.toInt then
          .float (UInt64.ofNat (Number.binary64.encode (datumOfInt number)))
        else .expression (String.ofList code)) := by
  rw [spells.ofLiteral_eq blank]
  by_cases least : number = Int64.minValue
  · subst least
    refine ⟨iff_of_false ?_ (fun other => other rfl), fun _ => spells.ofTrimmed_least⟩
    rw [spells.ofTrimmed_least]
    split <;> exact nofun
  · exact ⟨iff_of_true (spells.ofTrimmed_of_ne_least least) least, fun same => absurd same least⟩

/-- A thousand below zero with an underscore and a suffix, between a tab and a space. -/
theorem literal_of_spelled_thousand :
    Spells (-1000 : Int64).toInt "-1_000L".toList ∧ (∀ c ∈ ['\t'] ++ [' '], Text.isBlank c = true) ∧
      ofLiteral "\t-1_000L " = .int (-1000) := by
  have groups : Grouped ['1', '0', '0', '0'] "1_000".toList :=
    .next '1' 1 (.next '0' 0 (.next '0' 0 (.last '0')))
  have spells : Spells (-1000 : Int64).toInt (sign (-1000) ++ "1_000".toList ++ ['L']) :=
    .signed groups (by decide)
  have blank : ∀ c ∈ ['\t'] ++ [' '], Text.isBlank c = true :=
    List.all_eq_true.mp (by decide)
  exact ⟨spells, blank, (literal_of_spelled spells blank).1.mpr (by decide)⟩

/-- **The least integer is no integer**, neither by its digits alone nor with a suffix. -/
theorem least_integer_no_integer :
    Spells Int64.minValue.toInt "-9223372036854775808".toList ∧
      ofLiteral "-9223372036854775808" = .float 0xC3E0000000000000 ∧
      Spells Int64.minValue.toInt "-9223372036854775808L".toList ∧
      ofLiteral "-9223372036854775808L" = .expression "-9223372036854775808L" := by
  have digits : digitsOfNat Int64.minValue.toInt.natAbs = "9223372036854775808".toList := by
    decide +kernel
  have groups : Grouped (digitsOfNat Int64.minValue.toInt.natAbs) "9223372036854775808".toList := by
    rw [digits]
    exact .plain (by decide)
  have spelled {suffix : List Char} (known : suffix ∈ [[], ['L'], ['l']]) :
      Spells Int64.minValue.toInt (sign Int64.minValue.toInt ++ "9223372036854775808".toList ++ suffix) :=
    .signed groups known
  exact ⟨spelled (by decide), by decide +kernel, spelled (by decide), by decide +kernel⟩

end ModelPlanner.Value
