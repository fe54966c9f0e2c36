/-
**Texts in code.**

A text is written between double quotes with a backslash before each quote and each backslash, and with
escapes for the four characters that have one (`quoted`). What stands between the quotes of one literal is
its content: plain characters and escapes, up to the closing quote (`Content`). Otherwise an unescaped quote
stands inside, or the closing quote is escaped (`Broken`).

* `content_escape`: the written form of a text is content, and it means the text;
* `content_iff`: what stands between two quotes is content or broken, and never both;
* `unescape_append`: content is read as what it means, whatever stands behind it;
* `quoted_literal`: hence a text is read back, and code between quotes is always read as a text, also if it
  is no single literal.
-/

import ModelPlanner.Value.Literal

namespace ModelPlanner.Value

/-- A character of a text as it is written. -/
def escapeCharacter (c : Char) : List Char :=
  if c = '\\' ∨ c = '"' then ['\\', c]
  else if c = '\n' then ['\\', 'n']
  else if c = '\t' then ['\\', 't']
  else if c = '\r' then ['\\', 'r']
  else if c = '\x00' then ['\\', '0']
  else [c]

/-- Code between double quotes. -/
def betweenQuotes (inner : List Char) : List Char := '"' :: (inner ++ ['"'])

/-- A text as it is written. -/
def quoted (text : String) : List Char := betweenQuotes (text.toList.flatMap escapeCharacter)

/-- What stands between the quotes of one literal, and the text that it means. -/
inductive Content : List Char → List Char → Prop
  | nil : Content [] []
  | plain {c : Char} {inner meaning : List Char} :
      c ≠ '"' → c ≠ '\\' → Content inner meaning → Content (c :: inner) (c :: meaning)
  | escape (c : Char) {inner meaning : List Char} :
      Content inner meaning → Content ('\\' :: c :: inner) (escaped c :: meaning)

/-- What stands between two quotes is not one literal: there is an unescaped quote in it, or the closing
quote is escaped. -/
inductive Broken : List Char → Prop
  | inside {front meaning : List Char} (back : List Char) :
      Content front meaning → Broken (front ++ '"' :: back)
  | open {front meaning : List Char} : Content front meaning → Broken (front ++ ['\\'])

/-! ### Content -/

namespace Content

variable {inner front meaning before : List Char}

theorem of_plain {c : Char} (noBackslash : c ≠ '\\') (content : Content (c :: inner) meaning) :
    ∃ meaning, Content inner meaning := by
  cases content with
  | plain _ _ content => exact ⟨_, content⟩
  | escape => exact absurd rfl noBackslash

theorem of_escape {c : Char} (content : Content ('\\' :: c :: inner) meaning) :
    ∃ meaning, Content inner meaning := by
  cases content with
  | plain _ noBackslash => exact absurd rfl noBackslash
  | escape _ content => exact ⟨_, content⟩

/-- What follows content in content is content. -/
theorem rest (content : Content front before) {back : List Char} (whole : Content (front ++ back) meaning) :
    ∃ meaning, Content back meaning := by
  induction content generalizing meaning with
  | nil => exact ⟨meaning, whole⟩
  | plain _ noBackslash _ ih =>
    obtain ⟨_, later⟩ := of_plain noBackslash whole
    exact ih later
  | escape c _ ih =>
    obtain ⟨_, later⟩ := of_escape whole
    exact ih later

/-- Content is not broken. -/
theorem not_broken (content : Content inner meaning) : ¬ Broken inner := by
  intro broken
  cases broken with
  | inside back front =>
    obtain ⟨_, content⟩ := front.rest content
    cases content with
    | plain noQuote => exact noQuote rfl
  | «open» front =>
    obtain ⟨_, content⟩ := front.rest content
    cases content with
    | plain _ noBackslash => exact noBackslash rfl

end Content

namespace Broken

variable {inner : List Char}

theorem plain {c : Char} (noQuote : c ≠ '"') (noBackslash : c ≠ '\\') (broken : Broken inner) :
    Broken (c :: inner) := by
  cases broken with
  | inside back front => exact .inside back (.plain noQuote noBackslash front)
  | «open» front => exact .open (.plain noQuote noBackslash front)

theorem escape (c : Char) (broken : Broken inner) : Broken ('\\' :: c :: inner) := by
  cases broken with
  | inside back front => exact .inside back (.escape c front)
  | «open» front => exact .open (.escape c front)

end Broken

/-- What stands between two quotes is content or broken. -/
theorem content_or_broken (inner : List Char) : (∃ meaning, Content inner meaning) ∨ Broken inner := by
  -- The recursion is that of reading escapes.
  induction inner using unescape.induct with
  | case1 => exact Or.inl ⟨[], .nil⟩
  | case2 c inner ih =>
    rcases ih with ⟨meaning, content⟩ | broken
    · exact Or.inl ⟨_, .escape c content⟩
    · exact Or.inr (broken.escape c)
  | case3 c inner noEscape ih =>
    by_cases backslash : c = '\\'
    · cases inner with
      | nil =>
        rw [backslash]
        exact Or.inr (.open .nil)
      | cons next inner => exact absurd rfl (noEscape next inner backslash)
    · by_cases quote : c = '"'
      · rw [quote]
        exact Or.inr (.inside inner .nil)
      · rcases ih with ⟨meaning, content⟩ | broken
        · exact Or.inl ⟨_, .plain quote backslash content⟩
        · exact Or.inr (broken.plain quote backslash)

/-- What stands between two quotes is content exactly if it is not broken. -/
theorem content_iff {inner : List Char} : (∃ meaning, Content inner meaning) ↔ ¬ Broken inner :=
  ⟨fun ⟨_, content⟩ => content.not_broken, (content_or_broken inner).resolve_right⟩

/-- The written form of a text is content that means the text. -/
theorem content_escape (text : List Char) : Content (text.flatMap escapeCharacter) text := by
  induction text with
  | nil => exact .nil
  | cons c text ih =>
    rw [List.flatMap_cons, escapeCharacter]
    by_cases marked : c = '\\' ∨ c = '"'
    · have same : escaped c = c := by rcases marked with rfl | rfl <;> rfl
      have content := ih.escape c
      rw [same] at content
      rw [if_pos marked]
      exact content
    · rw [if_neg marked]
      split
      · next lineFeed => exact lineFeed ▸ ih.escape 'n'
      split
      · next tab => exact tab ▸ ih.escape 't'
      split
      · next carriage => exact carriage ▸ ih.escape 'r'
      split
      · next zero => exact zero ▸ ih.escape '0'
      · exact .plain (fun quote => marked (Or.inr quote)) (fun backslash => marked (Or.inl backslash)) ih

/-! ### Reading -/

theorem unescape_plain {c : Char} (noBackslash : c ≠ '\\') (rest : List Char) :
    unescape (c :: rest) = c :: unescape rest := by
  rw [unescape]
  exact fun _ _ backslash => absurd backslash noBackslash

/-- Content is read as what it means, whatever stands behind it. -/
theorem unescape_append {front meaning : List Char} (content : Content front meaning)
    (back : List Char) : unescape (front ++ back) = meaning ++ unescape back := by
  induction content with
  | nil => rfl
  | plain _ noBackslash _ ih => rw [List.cons_append, unescape_plain noBackslash, ih, List.cons_append]
  | escape c _ ih => rw [List.cons_append, List.cons_append, unescape, ih, List.cons_append]

/-- Content is read as what it means. -/
theorem unescape_of_content {inner meaning : List Char} (content : Content inner meaning) :
    unescape inner = meaning := by
  have read := unescape_append content []
  rwa [List.append_nil, unescape, List.append_nil] at read

/-- Code between quotes is read as a text, whatever stands between them. -/
theorem ofTrimmed_betweenQuotes (inner : List Char) :
    ofTrimmed (betweenQuotes inner) = .str (String.ofList (unescape inner)) := by
  have noWord {word : List Char} (letter : word.head? ≠ some '"') : betweenQuotes inner ≠ word := by
    rintro rfl
    exact letter rfl
  have taken : Text.between? '"' (betweenQuotes inner) = some inner := by
    simp [betweenQuotes, Text.between?]
  unfold ofTrimmed
  rw [if_neg (noWord (by decide)), if_neg (noWord (by decide)), if_neg (noWord (by decide)), taken]

theorem isBlank_quote : Text.isBlank '"' = false := by decide

theorem ofLiteral_betweenQuotes {before after : List Char}
    (blank : ∀ c ∈ before ++ after, Text.isBlank c = true) (inner : List Char) :
    ofLiteral (String.ofList (before ++ betweenQuotes inner ++ after)) =
      .str (String.ofList (unescape inner)) := by
  have solidStart : ∀ c ∈ (betweenQuotes inner).head?, Text.isBlank c = false := by
    simp [betweenQuotes, isBlank_quote]
  have solidEnd : ∀ c ∈ (betweenQuotes inner).getLast?, Text.isBlank c = false := by
    simp [betweenQuotes, List.getLast?_cons, isBlank_quote]
  rw [ofLiteral_surrounded blank solidStart solidEnd, ofTrimmed_betweenQuotes]

/-! ### Literals -/

/-- The value is the documented one of code between quotes: a literal has the text that it means, and any
other code is an expression. -/
structure AsDocumented (inner : List Char) (value : Value) : Prop where
  literal : ∀ meaning, Content inner meaning → value = .str (String.ofList meaning)
  expression : Broken inner → value = .expression (String.ofList (betweenQuotes inner))

/-- **A text is read back, and whatever stands between two quotes is read as a text.** A text is the value of
its written form, also between blanks. Code between two quotes has the text that replacing its escapes gives,
so it is evaluated as documented exactly if it is one literal. A quote alone is an expression. -/
theorem quoted_literal {before after : List Char} (blank : ∀ c ∈ before ++ after, Text.isBlank c = true) :
    (∀ text : String, ofLiteral (String.ofList (before ++ quoted text ++ after)) = .str text) ∧
      (∀ inner, ofLiteral (String.ofList (before ++ betweenQuotes inner ++ after)) =
        .str (String.ofList (unescape inner))) ∧
      (∀ inner, AsDocumented inner (ofLiteral (String.ofList (before ++ betweenQuotes inner ++ after))) ↔
        ∃ meaning, Content inner meaning) ∧
      ofLiteral (String.ofList (before ++ ['"'] ++ after)) = .expression "\"" := by
  refine ⟨fun text => ?_, ofLiteral_betweenQuotes blank, fun inner => ?_, ?_⟩
  · rw [quoted, ofLiteral_betweenQuotes blank, unescape_of_content (content_escape text.toList),
      String.ofList_toList]
  · rw [ofLiteral_betweenQuotes blank, content_iff]
    constructor
    · intro documented broken
      exact nomatch documented.expression broken
    · intro whole
      refine ⟨fun meaning content => ?_, fun broken => absurd broken whole⟩
      rw [unescape_of_content content]
  · rw [ofLiteral_surrounded blank (by simp [isBlank_quote]) (by simp [isBlank_quote])]
    decide +kernel

/-- A line with a quoted word in it, between blanks. -/
theorem quoted_literal_line :
    (∀ c ∈ [' '] ++ ['\n'], Text.isBlank c = true) ∧
      ofLiteral " \"say \\\"hi\\\"\\n\"\n" = .str "say \"hi\"\n" ∧
      AsDocumented "say \\\"hi\\\"\\n".toList (ofLiteral " \"say \\\"hi\\\"\\n\"\n") := by
  have blank : ∀ c ∈ [' '] ++ ['\n'], Text.isBlank c = true :=
    List.all_eq_true.mp (by decide)
  obtain ⟨written, _, documented, _⟩ := quoted_literal blank
  exact ⟨blank, written "say \"hi\"\n", (documented _).mpr ⟨_, content_escape "say \"hi\"\n".toList⟩⟩

/-- **A concatenation is read as one text**, and so is code whose closing quote is escaped. -/
theorem concatenation_read_as_text :
    Broken "a\" + \"b".toList ∧ ofLiteral "\"a\" + \"b\"" = .str "a\" + \"b" ∧
      Broken "a\\".toList ∧ ofLiteral "\"a\\\"" = .str "a\\" := by
  have letter : Content ['a'] ['a'] := .plain (by decide) (by decide) .nil
  exact ⟨.inside " + \"b".toList letter, by decide +kernel, .open letter, by decide +kernel⟩

end ModelPlanner.Value
