/-
**The surface of a generated class.**

The surface lists what the class generated for a model declares: a setter per attribute, overrides of
the chainable methods, constructors, the steps that reset an instance, the steps of its equality, the
parts of its text, and the methods of its builder.

* A setter clears the other members of its attribute's group, and checks for null unless the attribute
  is nullable or primitive.
* A reset gives the attribute of a group that is not the group's default its zero value, and every
  other attribute its default.
* Attributes that are excluded from the hash take no part in equality.
-/

import ModelPlanner.Model

namespace ModelPlanner

/-- The setter of an attribute. -/
structure SetterPlan where
  key : AttributeKey
  param : Param
  clears : List AttributeKey
  nullCheck : Bool
  returns : TypeName
deriving DecidableEq

/-- The override of a chainable method. -/
structure OverridePlan where
  method : Method
  returns : TypeName
deriving DecidableEq

/-- A constructor of the generated class; it is synthesized when the declaration has none. -/
structure ConstructorPlan where
  constructor : Constructor
  synthesized : Bool
deriving DecidableEq

/-- What a reset assigns to an attribute. -/
inductive ResetValue where
  | code (text : String)
  | languageDefault
deriving Repr, DecidableEq

/-- The reset of an attribute. -/
structure ResetStep where
  key : AttributeKey
  value : ResetValue
deriving DecidableEq

/-- The comparison of an attribute. -/
structure EqualityStep where
  key : AttributeKey
  policy : HashPolicy
deriving DecidableEq

/-- What a builder method passes its arguments to. -/
inductive BuilderTarget where
  | setter (key : AttributeKey)
  | id
  | layout
  | spanSizeOverride
deriving DecidableEq

/-- A method of the builder. -/
structure BuilderMethod where
  name : String
  params : List Param
  varargs : Bool
  target : BuilderTarget
deriving DecidableEq

/-- The name of a builder method with the types of its parameters. -/
def BuilderMethod.signature (method : BuilderMethod) : String × List TypeName :=
  (method.name, method.params.map (·.type))

/-- What the generated class of a model declares. -/
structure Surface where
  generatedType : TypeName
  superType : TypeName
  capability : TypeName
  builderType : TypeName
  setters : List SetterPlan
  overrides : List OverridePlan
  constructors : List ConstructorPlan
  reset : List ResetStep
  equality : List EqualityStep
  text : List AttributeKey
  builderMethods : List BuilderMethod
deriving DecidableEq

namespace Surface

/-- A parameter without annotations. -/
def plainParam (type : TypeName) (name : String) : Param := ⟨type, name, []⟩

/-- A parameter with an annotation that has no arguments. -/
def markedParam (type : TypeName) (name marker : String) : Param := ⟨type, name, [⟨marker, []⟩]⟩

/-- The setter of an attribute. -/
def planSetter (model : Model) (config : Config) (attr : Attribute) : SetterPlan :=
  { key := attr.key
    param :=
      if attr.nullable then markedParam attr.type attr.name config.nullableAnnotationName
      else plainParam attr.type attr.name
    clears := match model.groupOf? attr.key with
      | some group => group.siblings attr.key
      | none => []
    nullCheck := !attr.nullable && !attr.type.isPrimitive
    returns := model.header.generatedType }

/-- The constructors of the generated class. -/
def planConstructors (constructors : List Constructor) : List ConstructorPlan :=
  if constructors.isEmpty then [⟨⟨.ofList [.publicAccess], [], false⟩, true⟩]
  else constructors.map (⟨·, false⟩)

/-- What a reset assigns to an attribute. -/
def resetValue (model : Model) (attr : Attribute) : ResetValue :=
  let restored : ResetValue :=
    if attr.default = .languageNative then .languageDefault else .code attr.resetCode
  match model.groupOf? attr.key with
  | some group => if group.default? = some attr.key then restored else .code attr.type.zeroLiteral
  | none => restored

/-- The comparisons of the attributes that are not excluded from the hash. -/
def planEquality (attributes : List Attribute) : List EqualityStep :=
  (attributes.filter (·.hashPolicy ≠ .excluded)).map fun attr => ⟨attr.key, attr.hashPolicy⟩

/-- The builder method of an attribute. -/
def attributeMethod (attr : Attribute) : BuilderMethod :=
  ⟨attr.name, [plainParam attr.type attr.name], false, .setter attr.key⟩

/-- The builder methods that every model has. -/
def commonMethods : List BuilderMethod :=
  let long := TypeName.raw "long"
  let chars := TypeName.raw "java.lang.CharSequence"
  let number := TypeName.raw "java.lang.Number"
  let id (params : List Param) (varargs : Bool) : BuilderMethod := ⟨"id", params, varargs, .id⟩
  [id [plainParam long "id"] false,
   id [plainParam number.arrayOf "ids"] true,
   id [plainParam long "id1", plainParam long "id2"] false,
   id [plainParam chars "key"] false,
   id [plainParam chars "key", plainParam chars.arrayOf "otherKeys"] true,
   id [plainParam chars "key", plainParam long "id"] false,
   ⟨"layout", [markedParam (.raw "int") "layoutRes" "LayoutRes"], false, .layout⟩,
   ⟨"spanSizeOverride",
    [markedParam (.raw "SpanSizeOverrideCallback") "spanSizeCallback" "Nullable"], false,
    .spanSizeOverride⟩]

/-- The surface of the class generated for a model. -/
def plan (model : Model) (config : Config) : Surface :=
  let generatedType := model.header.generatedType
  { generatedType
    superType := model.header.superType
    capability := .applied config.capability [.exact model.header.boundType]
    builderType :=
      typeInPackage generatedType.package (config.builderName model.generatedName)
    setters := model.attributes.map (planSetter model config)
    overrides := model.registry.methods.map (⟨·, generatedType⟩)
    constructors := planConstructors model.header.constructors
    reset := model.attributes.map fun attr => ⟨attr.key, resetValue model attr⟩
    equality := planEquality model.attributes
    text := model.attributes.map (·.key)
    builderMethods := model.attributes.map attributeMethod ++ commonMethods }

/-- The setter of a key. -/
def setter? (surface : Surface) (key : AttributeKey) : Option SetterPlan :=
  surface.setters.find? (·.key == key)

end Surface

end ModelPlanner
