/-
**Attributes of generated models.**

An attribute is a property of a generated class, identified by its field name and its type. It may
be nullable or required, has a default or none, and takes part in equality by its value, by its
presence or not at all.

* A new attribute is neither nullable nor required; a primitive one starts with its zero value as
  implicit default. Making it nullable gives it the implicit default `null` if it has none.
* `validate` refuses names that are no identifiers, the type `void` and nullable primitive types, in
  this order.
* `resetCode` is the code that restores the default: the default's code, or the zero literal of the
  type when there is none or it is blank.
-/

import ModelPlanner.ModelError
import ModelPlanner.Text.Identifier

namespace ModelPlanner

/-- Where the default of an attribute comes from. -/
inductive DefaultValue where
  | absent
  | implicit (code : String)
  | explicit (code : String)
  | languageNative
deriving Repr, DecidableEq

namespace DefaultValue

/-- Whether there is no default. -/
def isAbsent (default : DefaultValue) : Bool := default == .absent

/-- Whether the author declared the default. -/
def isExplicit : DefaultValue → Bool
  | .explicit _ | .languageNative => true
  | .absent | .implicit _ => false

/-- The code of a default that has some. -/
def code? : DefaultValue → Option String
  | .implicit code | .explicit code => some code
  | .absent | .languageNative => none

/-- Whether the default gives something to assign. -/
def isUsable : DefaultValue → Bool
  | .absent => false
  | .languageNative => true
  | .implicit code | .explicit code => !Text.isBlankText code

end DefaultValue

/-- How an attribute takes part in equality and hash. -/
inductive HashPolicy where
  | full
  | presenceOnly
  | excluded
deriving Repr, DecidableEq

namespace HashPolicy

/-- The name of a policy. -/
def text : HashPolicy → String
  | .full => "full"
  | .presenceOnly => "presence"
  | .excluded => "excluded"

/-- The policy that a text names; some have two names. -/
def ofText? (text : String) : Option HashPolicy :=
  let name := Text.trim text
  if name = "full" then some .full
  else if name = "presence" ∨ name = "presence_only" then some .presenceOnly
  else if name = "excluded" ∨ name = "do_not_hash" then some .excluded
  else none

end HashPolicy

/-- What identifies an attribute: its field name and its type. -/
structure AttributeKey where
  name : String
  type : TypeName
deriving DecidableEq

/-- The text of a key. -/
def AttributeKey.text (key : AttributeKey) : String := key.name ++ ": " ++ key.type.text

/-- A property of a generated class. -/
structure Attribute where
  key : AttributeKey
  nullable : Bool
  required : Bool
  default : DefaultValue
  hashPolicy : HashPolicy
  group? : Option String
  packagePrivate : Bool
  package : String
  origin? : Option String
deriving DecidableEq

namespace Attribute

/-- A new attribute. -/
def ofKey (key : AttributeKey) : Attribute :=
  { key
    nullable := false
    required := false
    default := if key.type.isPrimitive then .implicit key.type.zeroLiteral else .absent
    hashPolicy := .full
    group? := none
    packagePrivate := false
    package := ""
    origin? := none }

/-- The attribute allowing absence, which becomes its default if it has no other. -/
def allowNull (attr : Attribute) : Attribute :=
  { attr with
    nullable := true
    default := if attr.default.isAbsent then .implicit "null" else attr.default }

/-! ### Derived facts -/

/-- The field name. -/
def name (attr : Attribute) : String := attr.key.name

/-- The type. -/
def type (attr : Attribute) : TypeName := attr.key.type

/-- Whether there is a default. -/
def hasDefault (attr : Attribute) : Bool := !attr.default.isAbsent

/-- Whether the attribute may be absent and is so by default. -/
def defaultsToAbsence (attr : Attribute) : Bool :=
  attr.nullable &&
    match attr.default with
    | .implicit code => Text.trim code == "null"
    | _ => false

/-- The code that restores the default. -/
def resetCode (attr : Attribute) : String :=
  match attr.default.code? with
  | some code => if Text.isBlankText code then attr.type.zeroLiteral else code
  | none => attr.type.zeroLiteral

/-- Why the attribute cannot be a property of a class, if it cannot. -/
def refusal? (attr : Attribute) : Option Refusal :=
  if !Text.isIdentifier attr.name then some .notIdentifier
  else if attr.type.isVoid then some .voidType
  else if attr.nullable && attr.type.isPrimitive then
    some (.nullablePrimitive attr.type)
  else none

/-- Refuses an attribute that cannot be a property of a class. -/
def validate (attr : Attribute) : Except ModelError Unit :=
  match attr.refusal? with
  | some refusal => .error (.unsupportedAttribute attr.name refusal)
  | none => .ok ()

end Attribute

end ModelPlanner
