/-
**The configuration of a planner.**

A configuration names the suffixes of generated classes, the annotations and types with a meaning,
the multiplier of generated hashes and two switches. It is changed by options, each a key and a text
whose blanks at the ends do not count:

* a flag takes `true` or `false`, a suffix any text that is not empty, the multiplier an integer of
  32 bits with an optional sign;
* the list of presence-only types is extended by the parts of its text between commas, blank parts
  left out;
* options with other keys are ignored.
-/

import ModelPlanner.Number.Decimal
import ModelPlanner.QualifiedName
import ModelPlanner.Text

namespace ModelPlanner

/-- The configuration of a planner; the defaults are those of a new one. -/
structure Config where
  generatedSuffix : String := "_"
  builderSuffix : String := "Builder"
  resetMethod : String := "reset"
  capability : String := "GeneratedModel"
  attributeAnnotationName : String := "ModelAttribute"
  modelAnnotationName : String := "ModelClass"
  nullableAnnotationName : String := "Nullable"
  hashMultiplier : Int32 := 31
  presenceOnlyTypes : List String :=
    ["android.view.View.OnClickListener", "android.view.View.OnLongClickListener",
     "android.widget.CompoundButton.OnCheckedChangeListener"]
  boundTypeMarkers : List String := ["android.view.View"]
  defaultBoundType : String := "java.lang.Object"
  requireHashCode : Bool := false
  groupOverloads : Bool := true
deriving DecidableEq, Inhabited

/-! ### Options -/

/-- Why an option is refused. -/
inductive OptionError where
  | invalidFlag (key value : String)
  | invalidNumber (key value : String)
  | empty (key : String)
deriving Repr, DecidableEq

/-- The wording of a refused option. -/
def OptionError.message : OptionError → String
  | .invalidFlag key value =>
    "option `" ++ key ++ "` expects true or false, got `" ++ value ++ "`"
  | .invalidNumber key value =>
    "option `" ++ key ++ "` expects an integer, got `" ++ value ++ "`"
  | .empty key => "option `" ++ key ++ "` cannot be empty"

/-- The options that change a configuration. -/
inductive OptionKey where
  | requireHashCode
  | groupOverloads
  | generatedSuffix
  | builderSuffix
  | hashMultiplier
  | presenceOnlyTypes
deriving Repr, DecidableEq

/-- The text of an option's key. -/
def OptionKey.text : OptionKey → String
  | .requireHashCode => "requireHashCode"
  | .groupOverloads => "groupOverloads"
  | .generatedSuffix => "generatedSuffix"
  | .builderSuffix => "builderSuffix"
  | .hashMultiplier => "hashMultiplier"
  | .presenceOnlyTypes => "presenceOnlyTypes"

/-- The option of a key. -/
def OptionKey.ofText? (key : String) : Option OptionKey :=
  [OptionKey.requireHashCode, .groupOverloads, .generatedSuffix, .builderSuffix, .hashMultiplier,
    .presenceOnlyTypes].find? (·.text == key)

/-- The switch that a text stands for. -/
def readFlag? (value : String) : Option Bool :=
  if value = "true" then some true else if value = "false" then some false else none

/-- The integer of 32 bits that a text stands for: an optional sign and at least one digit. -/
def readInt32? (value : String) : Option Int32 :=
  let (negative, digits) := Number.readSign value.toList
  if digits.isEmpty || !digits.all Char.isDigit then none
  else
    let size : Int := Number.natOfDigits 0 digits
    let number := if negative then -size else size
    if Int32.minValue.toInt ≤ number ∧ number ≤ Int32.maxValue.toInt then some (Int32.ofInt number)
    else none

/-- The parts of a text between commas, trimmed, blank ones left out. -/
def readList (value : String) : List String :=
  ((Text.pieces ',' value.toList).map Text.trimList).filter (!·.isEmpty) |>.map String.ofList

namespace Config

/-- The configuration after an option whose value is trimmed. -/
def applyOption (config : Config) (key value : String) : Except OptionError Config :=
  match OptionKey.ofText? key with
  | none => .ok config
  | some .requireHashCode =>
    match readFlag? value with
    | some flag => .ok { config with requireHashCode := flag }
    | none => .error (.invalidFlag key value)
  | some .groupOverloads =>
    match readFlag? value with
    | some flag => .ok { config with groupOverloads := flag }
    | none => .error (.invalidFlag key value)
  | some .generatedSuffix =>
    if value.isEmpty then .error (.empty key) else .ok { config with generatedSuffix := value }
  | some .builderSuffix =>
    if value.isEmpty then .error (.empty key) else .ok { config with builderSuffix := value }
  | some .hashMultiplier =>
    match readInt32? value with
    | some number => .ok { config with hashMultiplier := number }
    | none => .error (.invalidNumber key value)
  | some .presenceOnlyTypes =>
    .ok { config with presenceOnlyTypes := config.presenceOnlyTypes ++ readList value }

/-- The default configuration changed by options, one after the other, up to the first refused one. -/
def ofOptions (options : List (String × String)) : Except OptionError Config :=
  options.foldlM (fun config (key, value) => config.applyOption key (Text.trim value)) {}

/-! ### Derived names -/

/-- The simple name of the class generated for a simple name. -/
def generatedName (config : Config) (simpleName : String) : String :=
  simpleName ++ config.generatedSuffix

/-- The name of the builder of a generated class: its suffix gives way to the builder suffix. -/
def builderName (config : Config) (generatedName : String) : String :=
  (Text.dropSuffix? generatedName config.generatedSuffix).getD generatedName ++ config.builderSuffix

/-- Whether only the presence of a value of a type counts for equality. -/
def isPresenceOnly (config : Config) (typeName : String) : Bool :=
  config.presenceOnlyTypes.any (QualifiedName.answersTo typeName)

end Config

end ModelPlanner
