/-
**Instances of generated classes.**

An instance holds a value for every attribute of its model and the state of its super class.

* A new instance is reset: every attribute has its planned reset value.
* Setting an attribute is refused when it is unknown, when the value is null and the setter checks for
  null, and when the value does not fit the type; otherwise the setter gives the attributes that it
  clears the zero value of their types, and then its own attribute the value.
* Equality compares attributes by their policies; the hash combines what they contribute, starting
  from the hash of the super class, in wrapping arithmetic of 32 bits.

An operation gives its outcome and the instance after it.
-/

import ModelPlanner.Surface
import ModelPlanner.Value.Literal

namespace ModelPlanner

/-- What the super class contributes to hash, text and equality. -/
structure SuperState where
  hash : Int32 := 0
  text : String := ""
  fields : List Value := []
deriving DecidableEq

/-- An attribute's place in an instance. -/
structure Slot where
  key : AttributeKey
  value : Value
deriving DecidableEq

/-- Why an attribute cannot be set. -/
inductive SetError where
  | unknownAttribute (name : String)
  | nullNotAllowed (name : String)
  | typeMismatch (name : String) (expected : TypeName) (found : String)
deriving DecidableEq

/-- The wording of a refused assignment. -/
def SetError.message : SetError → String
  | .unknownAttribute name => "unknown attribute `" ++ name ++ "`"
  | .nullNotAllowed name => name ++ " cannot be null"
  | .typeMismatch name expected found =>
    "attribute `" ++ name ++ "` of type `" ++ expected.text ++ "` cannot hold a " ++ found
      ++ " value"

/-- An instance of the class generated for a model. -/
structure Instance where
  model : Model
  surface : Surface
  multiplier : Int32
  values : Keyed Slot.key
  superState : SuperState

/-- The value that a reset assigns. -/
def ResetValue.value : ResetValue → Value
  | .code text => .ofLiteral text
  | .languageDefault => .expression "<language default>"

/-- The value of a type before any assignment. -/
def TypeName.zeroValue (type : TypeName) : Value := .ofLiteral type.zeroLiteral

namespace Instance

/-- The value of a key. -/
def get? (self : Instance) (key : AttributeKey) : Option Value :=
  (self.values.get? key).map (·.value)

/-- The value of the first key of a name. -/
def getNamed? (self : Instance) (name : String) : Option Value :=
  (self.values.entries.find? (·.key.name == name)).map (·.value)

/-- The value of a key, null if there is none. -/
def valueOf (self : Instance) (key : AttributeKey) : Value := (self.get? key).getD .null

/-- The instance with another value of a key. -/
def assign (self : Instance) (key : AttributeKey) (value : Value) : Instance :=
  { self with values := self.values.put ⟨key, value⟩ }

/-! ### Reset and construction -/

/-- The instance with all attributes at their reset values. -/
def reset (self : Instance) : Instance :=
  self.surface.reset.foldl (fun self step => self.assign step.key step.value.value) self

/-- A new instance of a model. -/
def ofModel (model : Model) (config : Config) : Instance :=
  reset
    { model
      surface := .plan model config
      multiplier := config.hashMultiplier
      values := .empty
      superState := {} }

/-- The instance with another state of its super class. -/
def withSuperState (self : Instance) (superState : SuperState) : Instance :=
  { self with superState }

/-! ### Setting -/

/-- Why an attribute cannot take a value, if it cannot. -/
def refusal? (setter : SetterPlan) (value : Value) : Option SetError :=
  if value.isNull && setter.nullCheck then some (.nullNotAllowed setter.key.name)
  else if !value.fits setter.key.type then
    some (.typeMismatch setter.key.name setter.key.type value.kind)
  else none

/-- The instance after a setter accepted a value. -/
def apply (self : Instance) (setter : SetterPlan) (value : Value) : Instance :=
  (setter.clears.foldl (fun self key => self.assign key key.type.zeroValue) self).assign setter.key
    value

/-- Sets the attribute of a key. -/
def set (self : Instance) (key : AttributeKey) (value : Value) : Except SetError Unit × Instance :=
  match self.surface.setter? key with
  | none => (.error (.unknownAttribute key.text), self)
  | some setter =>
    match refusal? setter value with
    | some error => (.error error, self)
    | none => (.ok (), self.apply setter value)

/-- The only key of a name. -/
def uniqueKey? (self : Instance) (name : String) : Option AttributeKey :=
  match self.values.keys.filter (·.name == name) with
  | [key] => some key
  | _ => none

/-- Sets the only attribute of a name. -/
def setNamed (self : Instance) (name : String) (value : Value) :
    Except SetError Unit × Instance :=
  match self.uniqueKey? name with
  | none => (.error (.unknownAttribute name), self)
  | some key => self.set key value

/-! ### Equality, hash and text -/

/-- Whether two values count as equal under a policy. -/
def agree (policy : HashPolicy) (first second : Value) : Bool :=
  match policy with
  | .full => first == second
  | .presenceOnly => first.isNull == second.isNull
  | .excluded => true

/-- Whether an instance is equal to another one. -/
def equals (self other : Instance) : Bool :=
  self.model.header.generatedType == other.model.header.generatedType &&
    self.superState.fields == other.superState.fields &&
    self.surface.equality.all fun step =>
      agree step.policy (self.valueOf step.key) (other.valueOf step.key)

/-- What a value contributes to the hash under a policy. -/
def contribution (step : EqualityStep) (value : Value) : Int32 :=
  match step.policy with
  | .full => value.hash step.key.type
  | .presenceOnly => if value.isNull then 0 else 1
  | .excluded => 0

/-- The hash of an instance. -/
def hash (self : Instance) : Int32 :=
  self.surface.equality.foldl
    (fun hash step => hash * self.multiplier + contribution step (self.valueOf step.key))
    self.superState.hash

/-- The text of an instance: the class, its attributes and the text of its super class. -/
def text (self : Instance) : String :=
  self.model.generatedName ++ "\x7b"
    ++ ", ".intercalate
      (self.surface.text.map fun key => key.name ++ "=" ++ (self.valueOf key).text)
    ++ "\x7d" ++ self.superState.text

end Instance

end ModelPlanner
