/-
**What is written is read back.**

The numbers of an integral value are integers: `Integral`. The reader finds such a value again in its
text, at every level, whatever ends it: `Reads`.

* `readItems?_of_reads`, `readFields?_of_reads`: an array or an object is read back if its parts are;
* `Integral.reads`: hence every integral value is, by induction on it;
* `read?_write`: hence the text of an integral value holds this value.
-/

import ModelPlanner.Proofs.Json.Tokens

namespace ModelPlanner.Json

/-- All numbers of a value are integers. -/
inductive Integral : Json → Prop
  | null : Integral .null
  | bool {truth : Bool} : Integral (.bool truth)
  | number {negative : Bool} {whole : Nat} : Integral (.number ⟨negative, whole, []⟩)
  | string {content? : Option String} : Integral (.string content?)
  | array {items : List Json} : (∀ item ∈ items, Integral item) → Integral (.array items)
  | object {fields : List (Option String × Json)} :
      (∀ field ∈ fields, Integral field.2) → Integral (.object fields)

variable {fuel level : Nat} {cs rest after : List Char} {items : List Json}
variable {fields : List (Option String × Json)}

/-! ### One step of the reader -/

/-- Blanks in front of a value do not count. -/
theorem readValue?_congr {other : List Char} (same : skip cs = skip other) :
    readValue? fuel cs = readValue? fuel other := by
  cases fuel with
  | zero => rfl
  | succ fuel => rw [readValue?, readValue?, same]

/-- A closing bracket starts no value. -/
theorem readValue?_closing (closing : skip cs = ']' :: after) : readValue? fuel cs = none := by
  cases fuel with
  | zero => rfl
  | succ fuel =>
    rw [readValue?, closing]
    rfl

/-- What starts with a sign or a digit is read as a number. -/
theorem readValue?_number {c : Char} (start : c = '-' ∨ c.isDigit = true) :
    readValue? (fuel + 1) (c :: cs) =
      (readNumber? (c :: cs)).map fun (spelling, after) => (.number spelling, after) := by
  have differs {other : Char} {more : List Char} (noStart : ¬ (other = '-' ∨ other.isDigit = true)) :
      c :: cs ≠ other :: more := by
    rintro ⟨⟩
    exact noStart start
  have noSpace : Text.isSpace c = false := by
    refine Bool.eq_false_iff.mpr fun space => ?_
    simp only [Text.isSpace, Bool.or_eq_true, beq_iff_eq, or_assoc] at space
    rcases space with rfl | rfl | rfl | rfl
    all_goals exact absurd start (by decide)
  rw [readValue?, skip_cons noSpace]
  split
  · next same => exact absurd same (differs (by decide))
  · next same => exact absurd same (differs (by decide))
  · next same => exact absurd same (differs (by decide))
  · next same => exact absurd same (differs (by decide))
  · next same => exact absurd same (differs (by decide))
  · next same => exact absurd same (differs (by decide))
  · rfl

theorem readValue?_bracket :
    readValue? (fuel + 1) ('[' :: cs) =
      match skip cs with
      | ']' :: after => some (.array [], after)
      | _ => (readItems? fuel cs).map fun (items, after) => (.array items, after) := rfl

theorem readValue?_brace :
    readValue? (fuel + 1) ('\x7b' :: cs) =
      match skip cs with
      | '\x7d' :: after => some (.object [], after)
      | _ => (readFields? fuel cs).map fun (fields, after) => (.object fields, after) := rfl

/-- An array with items is read as its items are, because these do not start with a bracket that closes
it. -/
theorem readValue?_array (read : readItems? fuel cs = some (items, after)) :
    readValue? (fuel + 1) ('[' :: cs) = some (.array items, after) := by
  rw [readValue?_bracket]
  split
  · next closing =>
    cases fuel with
    | zero => cases read
    | succ fuel =>
      rw [readItems?, readValue?_closing closing] at read
      cases read
  · rw [read]
    rfl

/-- An object with fields is read as its fields are, because these do not start with a brace that closes
it. -/
theorem readValue?_object (read : readFields? fuel cs = some (fields, after)) :
    readValue? (fuel + 1) ('\x7b' :: cs) = some (.object fields, after) := by
  rw [readValue?_brace]
  split
  · next closing =>
    cases fuel with
    | zero => cases read
    | succ fuel =>
      rw [readFields?, closing] at read
      cases read
  · rw [read]
    rfl

/-- The last item of an array stands before the closing bracket. -/
theorem readItems?_last {item : Json} (read : readValue? fuel cs = some (item, rest))
    (closing : skip rest = ']' :: after) : readItems? (fuel + 1) cs = some ([item], after) := by
  rw [readItems?, read]
  simp only [Option.bind_eq_bind, Option.bind_some, closing]

/-- Behind a comma the other items of an array follow. -/
theorem readItems?_more {item : Json} {more : List Char} (read : readValue? fuel cs = some (item, rest))
    (comma : skip rest = ',' :: more) (others : readItems? fuel more = some (items, after)) :
    readItems? (fuel + 1) cs = some (item :: items, after) := by
  rw [readItems?, read]
  simp only [Option.bind_eq_bind, Option.bind_some, comma, others, Option.map_some]

/-- A field is read off a list: a quoted key, a colon and a value. -/
def ReadsField (fuel : Nat) (cs : List Char) (field : Option String × Json) (after : List Char) : Prop :=
  ∃ afterQuote afterKey afterColon,
    skip cs = '"' :: afterQuote ∧ readString? afterQuote = some (field.1, afterKey) ∧
      skip afterKey = ':' :: afterColon ∧ readValue? fuel afterColon = some (field.2, after)

/-- The last field of an object stands before the closing brace. -/
theorem readFields?_last {field : Option String × Json} (read : ReadsField fuel cs field rest)
    (closing : skip rest = '\x7d' :: after) : readFields? (fuel + 1) cs = some ([field], after) := by
  obtain ⟨afterQuote, afterKey, afterColon, quoted, key, colon, value⟩ := read
  rw [readFields?, quoted]
  simp only [key, Option.bind_eq_bind, Option.bind_some, colon, value, closing]

/-- Behind a comma the other fields of an object follow. -/
theorem readFields?_more {field : Option String × Json} {more : List Char}
    (read : ReadsField fuel cs field rest) (comma : skip rest = ',' :: more)
    (others : readFields? fuel more = some (fields, after)) :
    readFields? (fuel + 1) cs = some (field :: fields, after) := by
  obtain ⟨afterQuote, afterKey, afterColon, quoted, key, colon, value⟩ := read
  rw [readFields?, quoted]
  simp only [key, Option.bind_eq_bind, Option.bind_some, colon, value, comma, others, Option.map_some]

/-! ### What is read back -/

/-- The reader finds a value in its text, and what follows it; two steps for a character are enough. -/
def Reads (json : Json) : Prop :=
  ∀ (level fuel : Nat) (rest : List Char), EndsNumber rest → 2 * (json.pretty level).length ≤ fuel →
    readValue? fuel (json.pretty level ++ rest) = some (json, rest)

theorem Reads.behind_newline {json : Json} (reads : json.Reads) (ends : EndsNumber rest)
    (enough : 2 * (json.pretty level).length ≤ fuel) :
    readValue? fuel (newline level ++ (json.pretty level ++ rest)) = some (json, rest) := by
  rw [readValue?_congr (skip_newline level _)]
  exact reads level fuel rest ends enough

@[simp]
theorem endsNumber_comma : EndsNumber (',' :: rest) := by
  rintro c ⟨⟩
  decide

@[simp]
theorem endsNumber_newline : EndsNumber (newline level ++ rest) := by
  rintro c ⟨⟩
  decide

@[simp]
theorem endsNumber_prettyItems : EndsNumber (prettyItems level items ++ rest) := by
  cases items with
  | nil => simp [prettyItems]
  | cons item items => simp [prettyItems]

@[simp]
theorem endsNumber_prettyFields : EndsNumber (prettyFields level fields ++ rest) := by
  cases fields with
  | nil => simp [prettyFields]
  | cons field fields => simp [prettyFields]

/-! ### Arrays -/

/-- The items of an array behind the sign in front of them. -/
theorem tail_prettyItems {item : Json} :
    (prettyItems level (item :: items)).tail ++ rest =
      newline (level + 1) ++ (item.pretty (level + 1) ++ (prettyItems level items ++ rest)) := by
  simp [prettyItems]

theorem length_prettyItems {item : Json} :
    (prettyItems level (item :: items)).length =
      2 * level + 4 + (item.pretty (level + 1)).length + (prettyItems level items).length := by
  simp only [prettyItems, newline, List.length_append, List.length_cons, List.length_replicate]
  omega

/-- The first item of an array is read, and there is fuel left for the others. -/
theorem readItems?_first {item : Json} (reads : item.Reads)
    (enough : 2 * (prettyItems level (item :: items)).length ≤ fuel + 1) (rest : List Char) :
    ∃ fewer, fuel = fewer + 1 ∧ 2 * (prettyItems level items).length ≤ fewer + 1 ∧
      readValue? fewer ((prettyItems level (item :: items)).tail ++ rest) =
        some (item, prettyItems level items ++ rest) := by
  rw [length_prettyItems] at enough
  obtain ⟨fewer, rfl⟩ := Nat.exists_eq_add_one_of_ne_zero (show fuel ≠ 0 by omega)
  refine ⟨fewer, rfl, by omega, ?_⟩
  rw [tail_prettyItems]
  exact reads.behind_newline endsNumber_prettyItems (by omega)

/-- The items of an array are read back if each of them is. -/
theorem readItems?_of_reads {item : Json} (each : ∀ one ∈ item :: items, Reads one)
    (enough : 2 * (prettyItems level (item :: items)).length ≤ fuel + 1) (rest : List Char) :
    readItems? fuel ((prettyItems level (item :: items)).tail ++ rest) = some (item :: items, rest) := by
  induction items generalizing item fuel with
  | nil =>
    obtain ⟨fewer, rfl, _, first⟩ := readItems?_first (each item List.mem_cons_self) enough rest
    have closing : skip (prettyItems level [] ++ rest) = ']' :: rest := by
      simp [prettyItems, Text.isSpace]
    exact readItems?_last first closing
  | cons next items ih =>
    obtain ⟨fewer, rfl, left, first⟩ := readItems?_first (each item List.mem_cons_self) enough rest
    have others := ih (fun one member => each one (List.mem_cons_of_mem _ member)) left
    exact readItems?_more first (skip_cons rfl) others

/-! ### Objects -/

/-- The fields of an object behind the sign in front of them. -/
theorem tail_prettyFields {key : Option String} {value : Json} :
    (prettyFields level ((key, value) :: fields)).tail ++ rest =
      newline (level + 1) ++ ('"' :: ((quote key).tail ++ (':' :: ' ' :: (value.pretty (level + 1) ++
        (prettyFields level fields ++ rest))))) := by
  rw [← List.cons_append, ← quote_eq]
  simp [prettyFields]

theorem length_prettyFields {key : Option String} {value : Json} :
    (prettyFields level ((key, value) :: fields)).length =
      2 * level + 6 + (quote key).length + (value.pretty (level + 1)).length +
        (prettyFields level fields).length := by
  simp only [prettyFields, newline, List.length_append, List.length_cons, List.length_replicate]
  omega

/-- The first field of an object is read, and there is fuel left for the others. -/
theorem readsField_first {field : Option String × Json} (reads : field.2.Reads)
    (enough : 2 * (prettyFields level (field :: fields)).length ≤ fuel + 1) (rest : List Char) :
    ∃ fewer, fuel = fewer + 1 ∧ 2 * (prettyFields level fields).length ≤ fewer + 1 ∧
      ReadsField fewer ((prettyFields level (field :: fields)).tail ++ rest) field
        (prettyFields level fields ++ rest) := by
  obtain ⟨key, value⟩ := field
  have reads : value.Reads := reads
  rw [length_prettyFields] at enough
  obtain ⟨fewer, rfl⟩ := Nat.exists_eq_add_one_of_ne_zero (show fuel ≠ 0 by omega)
  have blank (cs : List Char) : readValue? fewer (' ' :: cs) = readValue? fewer cs :=
    readValue?_congr rfl
  have found := reads (level + 1) fewer (prettyFields level fields ++ rest) endsNumber_prettyFields (by omega)
  refine ⟨fewer, rfl, by omega, _, _, ' ' :: _, ?_, readString?_quote key _, skip_cons rfl,
    (blank _).trans found⟩
  rw [tail_prettyFields, skip_newline, skip_cons (c := '"') rfl]

/-- The fields of an object are read back if their values are. -/
theorem readFields?_of_reads {field : Option String × Json}
    (each : ∀ one ∈ field :: fields, Reads one.2)
    (enough : 2 * (prettyFields level (field :: fields)).length ≤ fuel + 1) (rest : List Char) :
    readFields? fuel ((prettyFields level (field :: fields)).tail ++ rest) =
      some (field :: fields, rest) := by
  induction fields generalizing field fuel with
  | nil =>
    obtain ⟨fewer, rfl, _, first⟩ := readsField_first (each field List.mem_cons_self) enough rest
    have closing : skip (prettyFields level [] ++ rest) = '\x7d' :: rest := by
      simp [prettyFields, Text.isSpace]
    exact readFields?_last first closing
  | cons next fields ih =>
    obtain ⟨fewer, rfl, left, first⟩ := readsField_first (each field List.mem_cons_self) enough rest
    have others := ih (fun one member => each one (List.mem_cons_of_mem _ member)) left
    exact readFields?_more first (skip_cons rfl) others

/-! ### Values -/

/-- The text of a value is not empty. -/
theorem length_pretty_pos (level : Nat) (json : Json) : 0 < (json.pretty level).length := by
  cases json with
  | null => exact Nat.succ_pos 3
  | bool truth => cases truth <;> exact Nat.succ_pos _
  | number spelling =>
    have : 0 < (Number.digitsOfNat spelling.whole).length := Nat.length_toDigits_pos
    simp only [pretty, JsonNumber.chars, List.length_append]
    omega
  | string content? =>
    rw [pretty, quote_eq]
    exact Nat.succ_pos _
  | array items => cases items <;> exact Nat.succ_pos _
  | object fields => cases fields <;> exact Nat.succ_pos _

/-- A value is read with at least one step. -/
theorem Reads.of_succ {json : Json}
    (reads : ∀ (level fuel : Nat) (rest : List Char), EndsNumber rest →
      2 * (json.pretty level).length ≤ fuel + 1 →
        readValue? (fuel + 1) (json.pretty level ++ rest) = some (json, rest)) : json.Reads := by
  intro level fuel rest ends enough
  have := length_pretty_pos level json
  obtain ⟨fewer, rfl⟩ := Nat.exists_eq_add_one_of_ne_zero (show fuel ≠ 0 by omega)
  exact reads level fewer rest ends enough

theorem reads_null : Reads .null := .of_succ fun _ _ _ _ _ => rfl

theorem reads_bool (truth : Bool) : Reads (.bool truth) :=
  .of_succ fun _ _ _ _ _ => by cases truth <;> rfl

theorem reads_number (negative : Bool) (whole : Nat) : Reads (.number ⟨negative, whole, []⟩) := by
  refine .of_succ fun level fuel rest ends _ => ?_
  have start : ∃ c cs, JsonNumber.chars ⟨negative, whole, []⟩ ++ rest = c :: cs ∧
      (c = '-' ∨ c.isDigit = true) := by
    cases negative with
    | true => exact ⟨'-', _, rfl, Or.inl rfl⟩
    | false =>
      obtain ⟨first, digits, same, isDigit⟩ := digitsOfNat_start whole
      exact ⟨first, digits ++ rest, by simp [JsonNumber.chars, same], Or.inr isDigit⟩
  obtain ⟨c, cs, same, start⟩ := start
  have read := readNumber?_chars negative whole ends
  rw [same] at read
  rw [pretty, same, readValue?_number start, read, Option.map_some]

theorem reads_string (content? : Option String) : Reads (.string content?) := by
  refine .of_succ fun level fuel rest _ _ => ?_
  have step (cs : List Char) : readValue? (fuel + 1) ('"' :: cs) =
      (readString? cs).map fun found => (.string found.1, found.2) := rfl
  rw [pretty, quote_eq, List.cons_append, step, readString?_quote, Option.map_some]

theorem reads_array (each : ∀ item ∈ items, Reads item) : Reads (.array items) := by
  refine .of_succ fun level fuel rest _ enough => ?_
  cases items with
  | nil => rfl
  | cons item items => exact readValue?_array (readItems?_of_reads each enough rest)

theorem reads_object (each : ∀ field ∈ fields, Reads field.2) : Reads (.object fields) := by
  refine .of_succ fun level fuel rest _ enough => ?_
  cases fields with
  | nil => rfl
  | cons field fields => exact readValue?_object (readFields?_of_reads each enough rest)

/-- **Every integral value is read back**, by induction on the value. -/
theorem Integral.reads {json : Json} (integral : json.Integral) : json.Reads := by
  induction integral with
  | null => exact reads_null
  | @bool truth => exact reads_bool truth
  | @number negative whole => exact reads_number negative whole
  | @string content? => exact reads_string content?
  | array _ each => exact reads_array each
  | object _ each => exact reads_object each

/-- **The text of an integral value holds this value.** -/
theorem read?_write {json : Json} (integral : json.Integral) : read? json.write = some json := by
  have read := integral.reads 0 (2 * (json.pretty 0).length + 1) [] endsNumber_nil (Nat.le_succ _)
  rw [List.append_nil] at read
  rw [read?, write, String.length_ofList, String.toList_ofList, read]
  rfl

end ModelPlanner.Json
