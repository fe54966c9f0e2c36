/-
**Tokens are read back.**

* `skip_newline`, `skip_cons`: blanks are skipped, and nothing else;
* `readString?_quote`: the reader of strings finds the content that was quoted, whatever it is, and
  stops behind it;
* `readNumber?_chars`: the reader of numbers finds an integer that was spelled, if what follows it
  cannot continue it (`EndsNumber`).
-/

import ModelPlanner.Json.Reader

namespace ModelPlanner.Json

/-! ### Blanks -/

@[simp]
theorem skip_cons {c : Char} {rest : List Char} (noSpace : Text.isSpace c = false) :
    skip (c :: rest) = c :: rest :=
  List.dropWhile_cons_of_neg (by rw [noSpace]; exact Bool.false_ne_true)

@[simp]
theorem skip_newline (level : Nat) (rest : List Char) : skip (newline level ++ rest) = skip rest := by
  refine List.dropWhile_append_of_pos fun c member => ?_
  rcases List.mem_cons.mp member with rfl | indent
  · rfl
  · rw [List.eq_of_mem_replicate indent]
    rfl

/-! ### Strings -/

/-- Two hexadecimal digits are read as the number that they were written for. -/
theorem unit?_hexDigits {n : Nat} (control : n < 0x20) :
    unit? '0' '0' (hexDigit (n / 16)) (hexDigit (n % 16)) = some n := by
  revert n
  decide

/-- An escape with a letter of its own is read as its code point. -/
theorem readUnits?_short {letter : Char} {point : Nat} (rest : List Char) (noUnit : letter ≠ 'u')
    (short : shortEscape? letter = some point) :
    readUnits? ('\\' :: letter :: rest) =
      (readUnits? rest).map fun (units, after) => (point :: units, after) := by
  rw [readUnits?, short]
  · cases readUnits? rest <;> rfl
  · exact fun _ _ _ _ _ same => absurd same noUnit

/-- An escape with four digits is read as the unit of the digits. -/
theorem readUnits?_unit {a b c d : Char} {unit : Nat} (rest : List Char)
    (digits : unit? a b c d = some unit) :
    readUnits? ('\\' :: 'u' :: a :: b :: c :: d :: rest) =
      (readUnits? rest).map fun (units, after) => (unit :: units, after) := by
  rw [readUnits?, digits]
  cases readUnits? rest <;> rfl

/-- A character that needs no escape is read as its code point. -/
theorem readUnits?_raw {c : Char} (rest : List Char) (noQuote : c ≠ '"') (noBackslash : c ≠ '\\')
    (printable : ¬ c.toNat < 0x20) :
    readUnits? (c :: rest) =
      (readUnits? rest).map fun (units, after) => (c.toNat :: units, after) := by
  rw [readUnits?, if_neg (not_or.mpr ⟨printable, noBackslash⟩)]
  · cases readUnits? rest <;> rfl
  · exact noQuote
  · exact fun _ _ _ _ _ same => absurd same noBackslash
  · exact fun _ _ same => absurd same noBackslash

/-- An escaped character is read as its code point. -/
@[simp]
theorem readUnits?_escape (c : Char) (rest : List Char) :
    readUnits? (escape c ++ rest) =
      (readUnits? rest).map fun (units, after) => (c.toNat :: units, after) := by
  have short {letter : Char} (noUnit : letter ≠ 'u') (same : shortEscape? letter = some c.toNat) :
      readUnits? (['\\', letter] ++ rest) = _ := readUnits?_short rest noUnit same
  unfold escape
  split
  · next quote => exact short (by decide) (by rw [quote]; rfl)
  split
  · next backslash => exact short (by decide) (by rw [backslash]; rfl)
  split
  · next backspace => exact short (by decide) (by rw [backspace]; rfl)
  split
  · next formFeed => exact short (by decide) (by rw [formFeed]; rfl)
  split
  · next lineFeed => exact short (by decide) (by rw [lineFeed]; rfl)
  split
  · next carriage => exact short (by decide) (by rw [carriage]; rfl)
  split
  · next tab => exact short (by decide) (by rw [tab]; rfl)
  split
  · next control => exact readUnits?_unit rest (unit?_hexDigits control)
  · next noQuote noBackslash _ _ _ _ _ printable =>
    exact readUnits?_raw rest noQuote noBackslash printable

/-- The code points of a text are read up to its closing quote. -/
@[simp]
theorem readUnits?_content (content rest : List Char) :
    readUnits? (content.flatMap escape ++ '"' :: rest) = some (content.map Char.toNat, rest) := by
  induction content with
  | nil => rfl
  | cons c content ih =>
    simp [ih]

/-- A character is no surrogate. -/
theorem toNat_noSurrogate (c : Char) : c.toNat < 0xD800 ∨ 0xE000 ≤ c.toNat := by
  rcases c.valid with low | ⟨high, _⟩
  · exact Or.inl low
  · exact Or.inr high

/-- The code points of a text make the text. -/
@[simp]
theorem textOfUnits?_content (content : List Char) :
    textOfUnits? (content.map Char.toNat) = some content := by
  induction content with
  | nil => rfl
  | cons c content ih =>
    have valid := toNat_noSurrogate c
    have noSurrogate : ¬ (0xD800 ≤ c.toNat ∧ c.toNat < 0xE000) := by omega
    have noHigh : ¬ (0xD800 ≤ c.toNat ∧ c.toNat < 0xDC00) := by omega
    have noLow : ¬ (0xDC00 ≤ c.toNat ∧ c.toNat < 0xE000) := by omega
    -- a last code point has a case of its own
    cases content with
    | nil => rw [List.map_singleton, textOfUnits?, if_neg noSurrogate, Char.ofNat_toNat]
    | cons next content =>
      rw [List.map_cons, List.map_cons, textOfUnits?, if_neg noHigh, if_neg noLow, ← List.map_cons, ih,
        Option.map_some, Char.ofNat_toNat]

/-- A quoted string starts with a quote. -/
theorem quote_eq (content? : Option String) : quote content? = '"' :: (quote content?).tail := by
  cases content? <;> rfl

/-- **A quoted string is read back**, also one whose content is no text. -/
@[simp]
theorem readString?_quote (content? : Option String) (rest : List Char) :
    readString? ((quote content?).tail ++ rest) = some (content?, rest) := by
  cases content? with
  | none =>
    -- the unit that is written here is a surrogate, so it makes no text
    have tail : (quote none).tail ++ rest = '\\' :: 'u' :: 'd' :: '8' :: '0' :: '0' :: '"' :: rest := rfl
    have unit : unit? 'd' '8' '0' '0' = some 0xD800 := rfl
    rw [tail, readString?, readUnits?_unit _ unit]
    rfl
  | some content =>
    have tail : (quote (some content)).tail ++ rest = content.toList.flatMap escape ++ '"' :: rest :=
      List.append_assoc _ _ _
    simp [tail, readString?]

/-! ### Numbers -/

/-- What can stand behind a number: nothing that continues it. -/
def EndsNumber (rest : List Char) : Prop :=
  ∀ c ∈ rest.head?, c.isDigit = false ∧ c ≠ '.' ∧ c ≠ 'e' ∧ c ≠ 'E'

@[simp]
theorem endsNumber_nil : EndsNumber [] := nofun

/-- The digits of a number do not start with a zero, unless the number is zero. -/
theorem eq_zero_of_head_digitsOfNat (n : Nat) : (Number.digitsOfNat n).head? = some '0' → n = 0 := by
  induction n using Nat.strongRecOn with
  | ind n ih =>
    intro zero
    rw [Number.digitsOfNat, Nat.toDigits_eq_if (by decide)] at zero
    split at zero
    · next small =>
      have oneDigit : ∀ n < 10, [n.digitChar].head? = some '0' → n = 0 := by decide
      exact oneDigit n small zero
    · next large =>
      obtain ⟨first, digits, same⟩ := List.exists_cons_of_ne_nil (@Nat.toDigits_ne_nil (n / 10) 10)
      rw [same] at zero
      have : n / 10 = 0 := ih (n / 10) (by omega) (by rw [Number.digitsOfNat, same]; exact zero)
      omega

/-- The digits of a number are read up to what ends it. -/
theorem readDigits?_digitsOfNat (n : Nat) {rest : List Char} (ends : EndsNumber rest) :
    readDigits? (Number.digitsOfNat n ++ rest) = some (Number.digitsOfNat n, rest) := by
  have digits : ∀ c ∈ Number.digitsOfNat n, c.isDigit = true :=
    fun c member => Nat.isDigit_of_mem_toDigits (by decide) (by decide) member
  have stop : rest.takeWhile Char.isDigit = [] ∧ rest.dropWhile Char.isDigit = rest := by
    cases rest with
    | nil => exact ⟨rfl, rfl⟩
    | cons c rest =>
      have noDigit : ¬ c.isDigit = true := Bool.eq_false_iff.mp (ends c rfl).1
      exact ⟨List.takeWhile_cons_of_neg noDigit, List.dropWhile_cons_of_neg noDigit⟩
  have nonempty : (Number.digitsOfNat n).isEmpty = false :=
    List.isEmpty_eq_false_iff.mpr Nat.toDigits_ne_nil
  rw [readDigits?, List.takeWhile_append_of_pos digits, List.dropWhile_append_of_pos digits, stop.1,
    stop.2, List.append_nil]
  simp only [nonempty]
  rfl

/-- The digits of a number start with a digit. -/
theorem digitsOfNat_start (n : Nat) :
    ∃ first digits, Number.digitsOfNat n = first :: digits ∧ first.isDigit = true := by
  obtain ⟨first, digits, same⟩ := List.exists_cons_of_ne_nil (@Nat.toDigits_ne_nil n 10)
  refine ⟨first, digits, same, Nat.isDigit_of_mem_toDigits (b := 10) (n := n) ?_ ?_ ?_⟩
  · decide
  · decide
  · rw [same]
    exact List.mem_cons_self

theorem readFraction?_of_endsNumber {rest : List Char} (ends : EndsNumber rest) :
    readFraction? rest = some ([], rest) := by
  unfold readFraction?
  split
  · next after => exact absurd rfl (ends '.' rfl).2.1
  · rfl

theorem readExponent?_of_endsNumber {rest : List Char} (ends : EndsNumber rest) :
    readExponent? rest = some ([], rest) := by
  cases rest with
  | nil => rfl
  | cons c rest => rw [readExponent?, if_neg (not_or.mpr (ends c rfl).2.2)]

/-- **An integer is read back** up to what ends it. -/
theorem readNumber?_chars (negative : Bool) (whole : Nat) {rest : List Char} (ends : EndsNumber rest) :
    readNumber? (JsonNumber.chars ⟨negative, whole, []⟩ ++ rest) = some (⟨negative, whole, []⟩, rest) := by
  have spelled : ¬ ((Number.digitsOfNat whole).head? = some '0' ∧ (Number.digitsOfNat whole).length ≠ 1) := by
    rintro ⟨zero, long⟩
    rw [eq_zero_of_head_digitsOfNat whole zero] at long
    exact long rfl
  have value : Number.natOfDigits 0 (Number.digitsOfNat whole) = whole := Nat.ofDigitChars_ten_toDigits
  have chars : JsonNumber.chars ⟨negative, whole, []⟩ ++ rest =
      (if negative then ['-'] else []) ++ (Number.digitsOfNat whole ++ rest) := by
    simp [JsonNumber.chars]
  unfold readNumber?
  rw [chars]
  split
  next isNegative unsigned signed =>
  have parts : (isNegative, unsigned) = (negative, Number.digitsOfNat whole ++ rest) := by
    rw [← signed]
    cases negative with
    | true => rfl
    | false =>
      -- what starts with a digit has no sign
      obtain ⟨first, digits, same, isDigit⟩ := digitsOfNat_start whole
      rw [same]
      split
      · next sign =>
        cases sign
        cases isDigit
      · rfl
  cases parts
  simp only [readDigits?_digitsOfNat whole ends, Option.bind_eq_bind, Option.bind_some, if_neg spelled,
    readFraction?_of_endsNumber ends, readExponent?_of_endsNumber ends, value]
  rfl

end ModelPlanner.Json
