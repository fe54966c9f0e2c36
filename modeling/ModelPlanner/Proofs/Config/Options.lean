/-
**Options in any order.**

Options are a map: a list of keys with texts in which no key occurs twice, in the order in which they happen
to be visited. An option asks for a setting of the field that it names (`Asks`), names no field, or is
malformed.

* `applyOption_of_spelled`, `applyOption_of_unspelled`, `step_cases`: what one option does, which is the only
  place where the readers of flags and numbers matter;
* `refused_iff`, `blames_of_refused`: options are refused exactly if one of them is malformed, and for one
  that is;
* `FollowsFrom`, `followsFrom_of_ok`: in what options lead to, a named field is what its option alone makes of
  a new configuration, and every other field is as in a new one;
* `FollowsFrom.unique`: this describes one configuration, and mentions no order.
-/

import ModelPlanner.Config
import ModelPlanner.Proofs.Outcome

namespace ModelPlanner

/-! ### Numbers and flags -/

namespace Number

/-- The text is some decimal digits behind a sign that may be absent, and stands for the number. -/
inductive SpellsInteger : List Char → Int → Prop
  | plain {digits : List Char} : digits ≠ [] → (∀ c ∈ digits, c.isDigit = true) →
      SpellsInteger digits (natOfDigits 0 digits)
  | plus {digits : List Char} : digits ≠ [] → (∀ c ∈ digits, c.isDigit = true) →
      SpellsInteger ('+' :: digits) (natOfDigits 0 digits)
  | minus {digits : List Char} : digits ≠ [] → (∀ c ∈ digits, c.isDigit = true) →
      SpellsInteger ('-' :: digits) (-natOfDigits 0 digits)

/-- Digits have no sign. -/
theorem readSign_digits {digits : List Char} (digit : ∀ c ∈ digits, c.isDigit = true) :
    readSign digits = (false, digits) := by
  unfold readSign
  split
  · exact absurd (digit '-' List.mem_cons_self) (by decide)
  · exact absurd (digit '+' List.mem_cons_self) (by decide)
  · rfl

theorem spellsInteger_iff {text digits : List Char} {negative : Bool} {number : Int}
    (signed : readSign text = (negative, digits)) :
    SpellsInteger text number ↔ (digits ≠ [] ∧ ∀ c ∈ digits, c.isDigit = true) ∧
      (if negative then -(natOfDigits 0 digits : Int) else natOfDigits 0 digits) = number := by
  constructor
  · rintro (⟨filled, digit⟩ | ⟨filled, digit⟩ | ⟨filled, digit⟩)
    · cases (readSign_digits digit).symm.trans signed
      exact ⟨⟨filled, digit⟩, rfl⟩
    · cases signed
      exact ⟨⟨filled, digit⟩, rfl⟩
    · cases signed
      exact ⟨⟨filled, digit⟩, rfl⟩
  · rintro ⟨⟨filled, digit⟩, rfl⟩
    unfold readSign at signed
    split at signed
    · cases signed
      exact .minus filled digit
    · cases signed
      exact .plus filled digit
    · cases signed
      exact .plain filled digit

end Number

/-- A number in range is the integer of 32 bits with this value. -/
theorem ofInt_inRange_iff {size : Int} {number : Int32} :
    (if Int32.minValue.toInt ≤ size ∧ size ≤ Int32.maxValue.toInt then some (Int32.ofInt size)
      else none) = some number ↔ size = number.toInt := by
  constructor
  · intro found
    split at found
    · next inRange =>
      have lower : -2 ^ 31 ≤ size := inRange.1
      have upper : size < 2 ^ 31 := Int.lt_of_le_sub_one inRange.2
      cases found
      exact (Int32.toInt_ofInt_of_le lower upper).symm
    · cases found
  · rintro rfl
    rw [if_pos ⟨number.minValue_le_toInt, number.toInt_le⟩, Int32.ofInt_toInt]

/-- The reader of integers of 32 bits finds those that are spelled, and nothing else. -/
@[simp]
theorem readInt32?_eq_some_iff {value : String} {number : Int32} :
    readInt32? value = some number ↔ Number.SpellsInteger value.toList number.toInt := by
  unfold readInt32?
  cases signed : Number.readSign value.toList with
  | mk negative digits =>
    rw [Number.spellsInteger_iff signed]
    simp only
    split
    · next wrong =>
      refine iff_of_false nofun fun ⟨⟨filled, digit⟩, _⟩ => ?_
      have noDigit : ∃ c ∈ digits, c.isDigit = false := by simpa [filled] using wrong
      obtain ⟨c, member, other⟩ := noDigit
      exact Bool.false_ne_true (other.symm.trans (digit c member))
    · next right =>
      have shaped : digits ≠ [] ∧ ∀ c ∈ digits, c.isDigit = true := by simpa using right
      exact ofInt_inRange_iff.trans (and_iff_right shaped).symm

/-- The word for a flag. -/
def flagWord (flag : Bool) : String := if flag then "true" else "false"

@[simp]
theorem readFlag?_eq_some_iff {value : String} {flag : Bool} :
    readFlag? value = some flag ↔ value = flagWord flag := by
  unfold readFlag? flagWord
  cases flag <;> grind

/-! ### What an option asks for -/

/-- A value for a field that options can change. -/
inductive Setting where
  | requireHashCode (flag : Bool)
  | groupOverloads (flag : Bool)
  | generatedSuffix (suffix : String)
  | builderSuffix (suffix : String)
  | hashMultiplier (number : Int32)
  | presenceOnlyTypes (names : List String)
deriving DecidableEq

namespace Setting

/-- The field that a setting is for. -/
def key : Setting → OptionKey
  | .requireHashCode _ => .requireHashCode
  | .groupOverloads _ => .groupOverloads
  | .generatedSuffix _ => .generatedSuffix
  | .builderSuffix _ => .builderSuffix
  | .hashMultiplier _ => .hashMultiplier
  | .presenceOnlyTypes _ => .presenceOnlyTypes

/-- The configuration with a setting: names are added to those that are there, any other value replaces the
one before. -/
def apply (config : Config) : Setting → Config
  | .requireHashCode flag => { config with requireHashCode := flag }
  | .groupOverloads flag => { config with groupOverloads := flag }
  | .generatedSuffix suffix => { config with generatedSuffix := suffix }
  | .builderSuffix suffix => { config with builderSuffix := suffix }
  | .hashMultiplier number => { config with hashMultiplier := number }
  | .presenceOnlyTypes names => { config with presenceOnlyTypes := config.presenceOnlyTypes ++ names }

/-- The text of an option spells the setting. -/
def SpelledBy (value : String) : Setting → Prop
  | .requireHashCode flag | .groupOverloads flag => value = flagWord flag
  | .generatedSuffix suffix | .builderSuffix suffix => value = suffix ∧ suffix ≠ ""
  | .hashMultiplier number => Number.SpellsInteger value.toList number.toInt
  | .presenceOnlyTypes names => names = readList value

end Setting

/-- How the text of an option is refused; a list never is. -/
def OptionKey.complaint? (key : OptionKey) (value : String) : Option OptionError :=
  match key with
  | .requireHashCode | .groupOverloads => some (.invalidFlag key.text value)
  | .generatedSuffix | .builderSuffix => some (.empty key.text)
  | .hashMultiplier => some (.invalidNumber key.text value)
  | .presenceOnlyTypes => none

/-- The option asks for the setting: it names its field, and its trimmed text spells it. -/
def Asks (option : String × String) (setting : Setting) : Prop :=
  option.1 = setting.key.text ∧ setting.SpelledBy (Text.trim option.2)

/-- The option names a field and asks for no setting of it. -/
def Malformed (option : String × String) : Prop :=
  (∃ key : OptionKey, option.1 = key.text) ∧ ∀ setting, ¬ Asks option setting

/-- The error blames the option: it is the complaint of the field about the trimmed text. -/
def Blames (error : OptionError) (option : String × String) : Prop :=
  ∃ key : OptionKey, option.1 = key.text ∧ key.complaint? (Text.trim option.2) = some error

@[simp]
theorem OptionKey.ofText?_text (key : OptionKey) : OptionKey.ofText? key.text = some key := by
  cases key <;> decide

theorem OptionKey.text_injective {first second : OptionKey} (same : first.text = second.text) :
    first = second := by
  have found := first.ofText?_text
  rw [same, second.ofText?_text] at found
  exact (Option.some.inj found).symm

/-- An error blames an option in one way only. -/
theorem Blames.unique {first second : OptionError} {option : String × String} (one : Blames first option)
    (two : Blames second option) : first = second := by
  obtain ⟨key, named, complains⟩ := one
  obtain ⟨other, otherNamed, otherComplains⟩ := two
  obtain rfl := OptionKey.text_injective (named.symm.trans otherNamed)
  exact Option.some.inj (complains.symm.trans otherComplains)

/-- An option that names a field and is well formed asks for a setting. -/
theorem exists_setting {option : String × String} {key : OptionKey} (named : option.1 = key.text)
    (wellFormed : ¬ Malformed option) : ∃ setting, Asks option setting :=
  Classical.not_forall_not.mp fun unsaid => wellFormed ⟨⟨key, named⟩, unsaid⟩

/-! ### What an option does -/

namespace Config

/-- The configuration after an option of a map. -/
def step (config : Config) (option : String × String) : Except OptionError Config :=
  config.applyOption option.1 (Text.trim option.2)

theorem ofOptions_eq (options : List (String × String)) : ofOptions options = options.foldlM step {} := rfl

/-- A text that spells a setting gives the configuration this setting. -/
theorem applyOption_of_spelled {setting : Setting} {value : String} (spelled : setting.SpelledBy value)
    (config : Config) : config.applyOption setting.key.text value = .ok (setting.apply config) := by
  unfold applyOption
  rw [OptionKey.ofText?_text]
  cases setting with
  | requireHashCode flag | groupOverloads flag =>
    simp only [Setting.key, readFlag?_eq_some_iff.mpr spelled]
    rfl
  | generatedSuffix suffix | builderSuffix suffix =>
    obtain ⟨rfl, filled⟩ := spelled
    simp only [Setting.key, String.isEmpty_iff, if_neg filled]
    rfl
  | hashMultiplier number =>
    simp only [Setting.key, readInt32?_eq_some_iff.mpr spelled]
    rfl
  | presenceOnlyTypes names =>
    cases spelled
    rfl

/-- A text that spells no setting of a field is refused with the field's complaint. -/
theorem applyOption_of_unspelled {key : OptionKey} {value : String}
    (unspelled : ∀ setting : Setting, setting.key = key → ¬ setting.SpelledBy value) (config : Config) :
    ∃ error, key.complaint? value = some error ∧ config.applyOption key.text value = .error error := by
  unfold applyOption
  rw [OptionKey.ofText?_text]
  cases key with
  | requireHashCode =>
    cases read : readFlag? value with
    | none => exact ⟨_, rfl, rfl⟩
    | some flag => exact absurd (readFlag?_eq_some_iff.mp read) (unspelled (.requireHashCode flag) rfl)
  | groupOverloads =>
    cases read : readFlag? value with
    | none => exact ⟨_, rfl, rfl⟩
    | some flag => exact absurd (readFlag?_eq_some_iff.mp read) (unspelled (.groupOverloads flag) rfl)
  | generatedSuffix =>
    by_cases empty : value = ""
    · simp only [String.isEmpty_iff, if_pos empty]
      exact ⟨_, rfl, rfl⟩
    · exact absurd ⟨rfl, empty⟩ (unspelled (.generatedSuffix value) rfl)
  | builderSuffix =>
    by_cases empty : value = ""
    · simp only [String.isEmpty_iff, if_pos empty]
      exact ⟨_, rfl, rfl⟩
    · exact absurd ⟨rfl, empty⟩ (unspelled (.builderSuffix value) rfl)
  | hashMultiplier =>
    cases read : readInt32? value with
    | none => exact ⟨_, rfl, rfl⟩
    | some number => exact absurd (readInt32?_eq_some_iff.mp read) (unspelled (.hashMultiplier number) rfl)
  | presenceOnlyTypes => exact absurd rfl (unspelled (.presenceOnlyTypes (readList value)) rfl)

/-- An option gives the configuration the setting that it asks for. -/
theorem step_of_asked {option : String × String} {setting : Setting} (asked : Asks option setting)
    (config : Config) : config.step option = .ok (setting.apply config) := by
  obtain ⟨named, spelled⟩ := asked
  rw [step, named, applyOption_of_spelled spelled]

/-- An option that names no field changes nothing. -/
theorem step_of_unknown {option : String × String} (unknown : ∀ key : OptionKey, option.1 ≠ key.text)
    (config : Config) : config.step option = .ok config := by
  have missing : OptionKey.ofText? option.1 = none := by
    refine List.find?_eq_none.mpr fun key _ found => unknown key ?_
    exact (beq_iff_eq.mp found).symm
  unfold step applyOption
  rw [missing]

/-- A malformed option is refused, whatever the configuration. -/
theorem step_of_malformed {option : String × String} (malformed : Malformed option) (config : Config) :
    ∃ error, Blames error option ∧ config.step option = .error error := by
  obtain ⟨⟨key, named⟩, unsaid⟩ := malformed
  have unspelled : ∀ setting : Setting, setting.key = key →
      ¬ setting.SpelledBy (Text.trim option.2) := by
    rintro setting rfl spelled
    exact unsaid setting ⟨named, spelled⟩
  obtain ⟨error, complains, refused⟩ := applyOption_of_unspelled unspelled config
  exact ⟨error, ⟨key, named, complains⟩, by rw [step, named, refused]⟩

/-- **An option is accepted for the setting that it asks for, ignored or refused.** -/
theorem step_cases (config : Config) (option : String × String) :
    (∃ setting, Asks option setting ∧ config.step option = .ok (setting.apply config)) ∨
      ((∀ key : OptionKey, option.1 ≠ key.text) ∧ config.step option = .ok config) ∨
      Malformed option ∧ ∃ error, Blames error option ∧ config.step option = .error error := by
  by_cases said : ∃ setting, Asks option setting
  · obtain ⟨setting, asked⟩ := said
    exact Or.inl ⟨setting, asked, step_of_asked asked config⟩
  by_cases known : ∃ key : OptionKey, option.1 = key.text
  · have malformed : Malformed option := ⟨known, not_exists.mp said⟩
    exact Or.inr (Or.inr ⟨malformed, step_of_malformed malformed config⟩)
  · have unknown : ∀ key : OptionKey, option.1 ≠ key.text := not_exists.mp known
    exact Or.inr (Or.inl ⟨unknown, step_of_unknown unknown config⟩)

theorem step_refused_iff {config : Config} {option : String × String} :
    (∃ error, config.step option = .error error) ↔ Malformed option := by
  rcases step_cases config option with
    ⟨setting, asked, done⟩ | ⟨unknown, done⟩ | ⟨malformed, error, _, done⟩
  · rw [done]
    exact iff_of_false (not_refused _) fun malformed => malformed.2 setting asked
  · rw [done]
    exact iff_of_false (not_refused _) fun ⟨⟨key, named⟩, _⟩ => unknown key named
  · exact iff_of_true ⟨error, done⟩ malformed

/-- **Options are refused exactly if one of them is malformed.** -/
theorem refused_iff {options : List (String × String)} :
    (∃ error, ofOptions options = .error error) ↔ ∃ option ∈ options, Malformed option := by
  rw [ofOptions_eq]
  exact foldlM_refused_iff fun option _ config => step_refused_iff

/-- Options are refused for one that is malformed. -/
theorem blames_of_refused {options : List (String × String)} {error : OptionError}
    (refused : ofOptions options = .error error) :
    ∃ option ∈ options, Malformed option ∧ Blames error option := by
  rw [ofOptions_eq] at refused
  have steps : RefusedFor (fun error => ∃ option ∈ options, Malformed option ∧ Blames error option)
      (options.foldlM step {}) := by
    refine RefusedFor.foldlM (motive := fun _ => True) trivial ?_ fun _ _ _ _ _ _ => trivial
    intro option listed config _ error stopped
    have malformed : Malformed option := step_refused_iff.mp ⟨error, stopped⟩
    obtain ⟨other, blames, refused⟩ := step_of_malformed malformed config
    cases refused.symm.trans stopped
    exact ⟨option, listed, malformed, blames⟩
  exact steps error refused

/-! ### What options lead to -/

/-- The value of a field that options can change. -/
def setting (config : Config) : OptionKey → Setting
  | .requireHashCode => .requireHashCode config.requireHashCode
  | .groupOverloads => .groupOverloads config.groupOverloads
  | .generatedSuffix => .generatedSuffix config.generatedSuffix
  | .builderSuffix => .builderSuffix config.builderSuffix
  | .hashMultiplier => .hashMultiplier config.hashMultiplier
  | .presenceOnlyTypes => .presenceOnlyTypes config.presenceOnlyTypes

/-- The configuration with the defaults of the fields that options can change. -/
def unset (config : Config) : Config :=
  let new : Config := {}
  { config with
    requireHashCode := new.requireHashCode
    groupOverloads := new.groupOverloads
    generatedSuffix := new.generatedSuffix
    builderSuffix := new.builderSuffix
    hashMultiplier := new.hashMultiplier
    presenceOnlyTypes := new.presenceOnlyTypes }

/-- A configuration consists of the fields that options can change and of the others. -/
theorem ext_setting {first second : Config} (settings : ∀ key, first.setting key = second.setting key)
    (others : first.unset = second.unset) : first = second := by
  have requireHashCode := Setting.requireHashCode.inj (settings .requireHashCode)
  have groupOverloads := Setting.groupOverloads.inj (settings .groupOverloads)
  have generatedSuffix := Setting.generatedSuffix.inj (settings .generatedSuffix)
  have builderSuffix := Setting.builderSuffix.inj (settings .builderSuffix)
  have hashMultiplier := Setting.hashMultiplier.inj (settings .hashMultiplier)
  have presenceOnlyTypes := Setting.presenceOnlyTypes.inj (settings .presenceOnlyTypes)
  cases first
  cases second
  simp_all [unset]

/-- A setting changes no other field. -/
theorem setting_apply_of_ne {setting : Setting} {key : OptionKey} (other : key ≠ setting.key)
    (config : Config) : (setting.apply config).setting key = config.setting key := by
  cases setting <;> cases key <;> first | rfl | exact absurd rfl other

/-- What a setting makes of its field depends on this field alone. -/
theorem setting_apply_congr {setting : Setting} {first second : Config}
    (same : first.setting setting.key = second.setting setting.key) :
    (setting.apply first).setting setting.key = (setting.apply second).setting setting.key := by
  cases setting with
  | presenceOnlyTypes names =>
    have before : first.presenceOnlyTypes = second.presenceOnlyTypes := Setting.presenceOnlyTypes.inj same
    exact congrArg (fun before => Setting.presenceOnlyTypes (before ++ names)) before
  | _ => rfl

@[simp]
theorem unset_apply (setting : Setting) (config : Config) : (setting.apply config).unset = config.unset := by
  cases setting <;> rfl

/-- The configuration follows from a map of options: each field that one of them sets is what this option
alone makes of a new configuration, and each field that none of them names has its default. -/
structure FollowsFrom (options : List (String × String)) (config : Config) : Prop where
  named : ∀ option ∈ options, ∀ setting, Asks option setting →
    config.setting setting.key = (setting.apply {}).setting setting.key
  unnamed : ∀ key : OptionKey, key.text ∉ options.map Prod.fst →
    config.setting key = ({} : Config).setting key
  others : config.unset = {}

namespace FollowsFrom

variable {options : List (String × String)} {config : Config} {option : String × String}

theorem notMem_names_concat {name : String} :
    name ∉ (options ++ [option]).map Prod.fst ↔ name ∉ options.map Prod.fst ∧ name ≠ option.1 := by
  rw [List.map_append, List.mem_append, List.map_singleton, List.mem_singleton, not_or]

/-- One more option sets its field, if no option before it did. -/
theorem concat_asked (follows : FollowsFrom options config) (fresh : option.1 ∉ options.map Prod.fst)
    {setting : Setting} (asked : Asks option setting) :
    FollowsFrom (options ++ [option]) (setting.apply config) where
  named other listed said askedOther := by
    rcases List.mem_append.mp listed with before | last
    · have different : said.key ≠ setting.key := fun same =>
        fresh (asked.1 ▸ same ▸ askedOther.1 ▸ List.mem_map_of_mem before)
      rw [setting_apply_of_ne different]
      exact follows.named other before said askedOther
    · cases List.mem_singleton.mp last
      -- whichever setting the option asks for, the configuration is the same
      have same : setting.apply config = said.apply config :=
        Except.ok.inj ((step_of_asked asked config).symm.trans (step_of_asked askedOther config))
      rw [same]
      exact setting_apply_congr (follows.unnamed said.key (askedOther.1 ▸ fresh))
  unnamed key missing := by
    obtain ⟨missingBefore, notLast⟩ := notMem_names_concat.mp missing
    have different : key ≠ setting.key := fun same => notLast (same ▸ asked.1.symm)
    rw [setting_apply_of_ne different]
    exact follows.unnamed key missingBefore
  others := by rw [unset_apply, follows.others]

/-- One more option that names no field changes nothing. -/
theorem concat_unknown (follows : FollowsFrom options config)
    (unknown : ∀ key : OptionKey, option.1 ≠ key.text) : FollowsFrom (options ++ [option]) config where
  named other listed said askedOther := by
    rcases List.mem_append.mp listed with before | last
    · exact follows.named other before said askedOther
    · cases List.mem_singleton.mp last
      exact absurd askedOther.1 (unknown said.key)
  unnamed key missing := follows.unnamed key (notMem_names_concat.mp missing).1
  others := follows.others

/-- A new configuration follows from no options. -/
theorem nil : FollowsFrom [] {} where
  named _ listed := nomatch listed
  unnamed _ _ := rfl
  others := rfl

/-- The order of the options does not matter. -/
theorem perm {others : List (String × String)} (follows : FollowsFrom options config)
    (visited : options.Perm others) : FollowsFrom others config where
  named other listed := follows.named other (visited.mem_iff.mpr listed)
  unnamed key missing := follows.unnamed key fun listed => missing ((visited.map Prod.fst).mem_iff.mp listed)
  others := follows.others

/-- **At most one configuration follows from well-formed options.** -/
theorem unique (wellFormed : ∀ option ∈ options, ¬ Malformed option) {other : Config}
    (one : FollowsFrom options config) (two : FollowsFrom options other) : config = other := by
  refine ext_setting (fun key => ?_) (one.others.trans two.others.symm)
  by_cases listed : key.text ∈ options.map Prod.fst
  · obtain ⟨option, member, named⟩ := List.mem_map.mp listed
    obtain ⟨setting, asked⟩ := exists_setting named (wellFormed option member)
    obtain rfl := OptionKey.text_injective (named.symm.trans asked.1)
    rw [one.named option member setting asked, two.named option member setting asked]
  · rw [one.unnamed key listed, two.unnamed key listed]

end FollowsFrom

/-- **What options lead to follows from them.** -/
theorem followsFrom_of_ok {options : List (String × String)} {config : Config}
    (distinct : (options.map Prod.fst).Nodup) (accepted : ofOptions options = .ok config) :
    FollowsFrom options config := by
  rw [ofOptions_eq] at accepted
  -- of a part of the options it is known only while no key occurs twice in it
  refine foldlM_induction
    (motive := fun front config => (front.map Prod.fst).Nodup → FollowsFrom front config)
    (fun _ => .nil) ?_ accepted distinct
  intro front option _ before after follows done distinctFront
  rw [List.map_append, List.nodup_append] at distinctFront
  obtain ⟨distinctBefore, _, apart⟩ := distinctFront
  have fresh : option.1 ∉ front.map Prod.fst := fun listed =>
    apart option.1 listed option.1 List.mem_cons_self rfl
  rcases step_cases before option with
    ⟨setting, asked, gives⟩ | ⟨unknown, gives⟩ | ⟨_, error, _, gives⟩
  · cases gives.symm.trans done
    exact (follows distinctBefore).concat_asked fresh asked
  · cases gives.symm.trans done
    exact (follows distinctBefore).concat_unknown unknown
  · cases gives.symm.trans done

/-- Options that are well formed lead to a configuration. -/
theorem exists_ok {options : List (String × String)}
    (wellFormed : ∀ option ∈ options, ¬ Malformed option) : ∃ config, ofOptions options = .ok config := by
  cases outcome : ofOptions options with
  | ok config => exact ⟨config, rfl⟩
  | error error =>
    obtain ⟨option, listed, malformed⟩ := refused_iff.mp ⟨error, outcome⟩
    exact absurd malformed (wellFormed option listed)

/-- **The order in which options are visited does not matter.** Two orders of a map of options lead to the
same configuration if no option is malformed, and to the same error, which blames this option, if exactly
one is. They are refused exactly if some option is malformed. What they lead to has in a field that an option
names what this option alone makes of it, and the defaults in all other fields. -/
theorem options_in_any_order {options others : List (String × String)}
    (distinct : (options.map Prod.fst).Nodup) (visited : options.Perm others) :
    ((∀ option ∈ options, ¬ Malformed option) →
        ∃ config, ofOptions options = .ok config ∧ ofOptions others = .ok config) ∧
      (∀ option ∈ options, Malformed option → (∀ other ∈ options, Malformed other → other = option) →
        ∃ error, Blames error option ∧ ofOptions options = .error error ∧
          ofOptions others = .error error) ∧
      ((∃ error, ofOptions options = .error error) ↔ ∃ option ∈ options, Malformed option) ∧
      ∀ config, ofOptions options = .ok config → FollowsFrom options config := by
  refine ⟨fun wellFormed => ?_, fun option listed malformed only => ?_, refused_iff,
    fun config => followsFrom_of_ok distinct⟩
  · obtain ⟨config, accepted⟩ := exists_ok wellFormed
    obtain ⟨other, acceptedToo⟩ := exists_ok fun option listed =>
      wellFormed option (visited.mem_iff.mpr listed)
    have follows := followsFrom_of_ok distinct accepted
    have followsToo := followsFrom_of_ok ((visited.map Prod.fst).nodup distinct) acceptedToo
    obtain rfl := follows.unique wellFormed (followsToo.perm visited.symm)
    exact ⟨config, accepted, acceptedToo⟩
  · obtain ⟨error, refused⟩ := refused_iff.mpr ⟨option, listed, malformed⟩
    obtain ⟨other, refusedToo⟩ := refused_iff.mpr ⟨option, visited.mem_iff.mp listed, malformed⟩
    obtain ⟨first, firstListed, firstMalformed, blames⟩ := blames_of_refused refused
    obtain ⟨second, secondListed, secondMalformed, blamesToo⟩ := blames_of_refused refusedToo
    obtain rfl := only first firstListed firstMalformed
    obtain rfl := only second (visited.mem_iff.mpr secondListed) secondMalformed
    obtain rfl := blames.unique blamesToo
    exact ⟨error, blames, refused, refusedToo⟩

/-- A flag between blanks, a list with blank parts, an unknown key and a number, visited in two orders; and
the same with a number that needs more than 32 bits. -/
theorem options_in_any_order_number :
    let options (number : String) : List (String × String) :=
      [("requireHashCode", " true "), ("presenceOnlyTypes", "a.B, ,c.D,"), ("unrelated", ""),
        ("hashMultiplier", number)]
    (∃ config, ofOptions (options "-17") = .ok config ∧ ofOptions (options "-17").reverse = .ok config ∧
        config.hashMultiplier = -17 ∧ config.generatedSuffix = "_") ∧
      ∃ error, Blames error ("hashMultiplier", "2147483648") ∧
        ofOptions (options "2147483648") = .error error ∧
        ofOptions (options "2147483648").reverse = .error error := by
  intro options
  have distinct (number : String) : ((options number).map Prod.fst).Nodup := by
    show ["requireHashCode", "presenceOnlyTypes", "unrelated", "hashMultiplier"].Nodup
    decide
  have visited (number : String) : (options number).Perm (options number).reverse :=
    (List.reverse_perm _).symm
  have only (number : String) :
      ∀ option ∈ options number, Malformed option → option = ("hashMultiplier", number) := by
    rintro option listed ⟨⟨key, named⟩, unsaid⟩
    simp only [options, List.mem_cons, List.not_mem_nil, or_false] at listed
    rcases listed with rfl | rfl | rfl | rfl
    · have trimmed : Text.trim " true " = flagWord true := by decide
      exact absurd ⟨rfl, trimmed⟩ (unsaid (.requireHashCode true))
    · exact absurd ⟨rfl, rfl⟩ (unsaid (.presenceOnlyTypes (readList "a.B, ,c.D,")))
    · have unknown : ∀ key : OptionKey, "unrelated" ≠ key.text := by
        intro key
        cases key <;> decide
      exact absurd named (unknown key)
    · rfl
  constructor
  · have digit : ∀ c ∈ ['1', '7'], c.isDigit = true := List.all_eq_true.mp (by decide)
    have asked : Asks ("hashMultiplier", "-17") (.hashMultiplier (-17)) :=
      ⟨rfl, Number.SpellsInteger.minus (List.cons_ne_nil _ _) digit⟩
    have wellFormed : ∀ option ∈ options "-17", ¬ Malformed option := by
      intro option listed malformed
      cases only "-17" option listed malformed
      exact malformed.2 _ asked
    have ⟨anyOrder, _, _, follows⟩ := options_in_any_order (distinct "-17") (visited "-17")
    obtain ⟨config, accepted, acceptedToo⟩ := anyOrder wellFormed
    have ⟨named, unnamed, _⟩ := follows config accepted
    have number := named ("hashMultiplier", "-17") (by decide) _ asked
    have suffix := unnamed .generatedSuffix (by decide)
    exact ⟨config, accepted, acceptedToo, Setting.hashMultiplier.inj number,
      Setting.generatedSuffix.inj suffix⟩
  · have listed : ("hashMultiplier", "2147483648") ∈ options "2147483648" := by decide
    have refused : ∃ error, ({} : Config).step ("hashMultiplier", "2147483648") = .error error :=
      ⟨_, rfl⟩
    have malformed := step_refused_iff.mp refused
    have ⟨_, sameError, _⟩ := options_in_any_order (distinct "2147483648") (visited "2147483648")
    exact sameError _ listed malformed (only "2147483648")

end Config

end ModelPlanner
