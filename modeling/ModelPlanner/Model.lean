/-
**Models of generated classes.**

A model says what class is generated for a declaration: its header, which follows from the
declaration alone, its attributes and chainable methods, its groups, its style and its layout.

* `addAttribute`, `addAttributes` and `addIfAbsent` register attributes;
* `addGroup` resolves a group of registered attributes and links them to it; a group of the same name
  is replaced and its members are unlinked first; an attribute of another group is refused;
* `setStyle` registers the style attribute.

An operation gives its outcome and the model after it.
-/

import ModelPlanner.BoundType
import ModelPlanner.Group
import ModelPlanner.MethodCache
import ModelPlanner.Registry

namespace ModelPlanner

/-- The layout parameters that a view gets by itself. -/
inductive AutoLayout where
  | off
  | wrapWidthWrapHeight
  | wrapWidthMatchHeight
  | matchWidthWrapHeight
  | matchWidthMatchHeight
deriving Repr, DecidableEq

namespace AutoLayout

/-- The name of a layout. -/
def text : AutoLayout → String
  | .off => "NONE"
  | .wrapWidthWrapHeight => "WRAP_WIDTH_WRAP_HEIGHT"
  | .wrapWidthMatchHeight => "WRAP_WIDTH_MATCH_HEIGHT"
  | .matchWidthWrapHeight => "MATCH_WIDTH_WRAP_HEIGHT"
  | .matchWidthMatchHeight => "MATCH_WIDTH_MATCH_HEIGHT"

/-- The layout that a text names, qualified or not. -/
def ofText? (text : String) : Option AutoLayout :=
  let name := QualifiedName.simple (Text.trim text)
  [off, wrapWidthWrapHeight, wrapWidthMatchHeight, matchWidthWrapHeight,
    matchWidthMatchHeight].find? (·.text == name)

end AutoLayout

/-- What follows from the declaration of a model alone. -/
structure ModelHeader where
  origin : String
  superType : TypeName
  generatedType : TypeName
  boundType : TypeName
  shouldGenerate : Bool
  superAlsoGenerated : Bool
  constructors : List Constructor
deriving DecidableEq

/-- The type of a name in a package; the empty package is not written. -/
def typeInPackage (package name : String) : TypeName :=
  .raw (if package.isEmpty then name else package ++ "." ++ name)

/-- The header of a declaration's model. -/
def ModelHeader.ofDeclaration (catalog : Catalog) (config : Config) (declaration : Declaration) :
    ModelHeader :=
  { origin := declaration.qualifiedName
    superType := declaration.asType
    generatedType :=
      typeInPackage declaration.package (config.generatedName declaration.simpleName)
    boundType := (boundType? catalog config declaration).getD (.raw config.defaultBoundType)
    shouldGenerate := !declaration.modifiers.has .abstract
    superAlsoGenerated := isAlsoGenerated catalog config declaration
    constructors := Constructor.ofDeclaration declaration }

/-- What class is generated for a declaration. -/
structure Model where
  header : ModelHeader
  registry : Registry
  groups : Keyed Group.name
  style? : Option TypeName
  autoLayout : AutoLayout
deriving DecidableEq

namespace Model

/-- A model with chainable methods and nothing else registered. -/
def bare (header : ModelHeader) (methods : List Method) : Model :=
  { header
    registry := .ofMethods methods
    groups := .empty
    style? := none
    autoLayout := .off }

/-- The new model of a declaration, which must not be final, and the cache after it. -/
def ofDeclaration (catalog : Catalog) (config : Config) (declaration : Declaration)
    (cache : MethodCache) : Except ModelError Model × MethodCache :=
  if declaration.modifiers.has .final then
    (.error (.finalDeclaration declaration.qualifiedName), cache)
  else
    let (methods, after) := cache.chainableMethods catalog config declaration
    (.ok (bare (.ofDeclaration catalog config declaration) methods), after)

/-! ### Parts -/

/-- The attributes, in the order of their first registration. -/
def attributes (model : Model) : List Attribute := model.registry.attributes.entries

/-- The attribute of a key. -/
def attribute? (model : Model) (key : AttributeKey) : Option Attribute := model.registry.get? key

/-- The group of a name. -/
def group? (model : Model) (name : String) : Option Group := model.groups.get? name

/-- The group of the attribute of a key. -/
def groupOf? (model : Model) (key : AttributeKey) : Option Group :=
  ((model.attribute? key).bind (·.group?)).bind model.group?

/-- The attributes that are members of a group. -/
def groupMembers (model : Model) (name : String) : List Attribute :=
  match model.group? name with
  | some group => group.members.filterMap model.attribute?
  | none => []

/-- The simple name of the generated class. -/
def generatedName (model : Model) : String := model.header.generatedType.simpleName

/-- Whether the generated class can be constructed without arguments. -/
def hasEmptyConstructor (model : Model) : Bool :=
  model.header.constructors.isEmpty || model.header.constructors.any Constructor.isEmpty

/-- Whether the view of the model is made by code. -/
def isProgrammatic (model : Model) : Bool := model.style?.isSome || model.autoLayout != .off

/-- The types, other than the declaration, from which the model originates. -/
def originatingTypes (model : Model) : List TypeName := model.style?.toList

/-! ### Attributes -/

/-- A model with the registry after an operation on it. -/
def withRegistry {α : Type} (model : Model) (result : α × Registry) : α × Model :=
  (result.1, { model with registry := result.2 })

/-- Registers one attribute. -/
def addAttribute (model : Model) (attr : Attribute) : Except ModelError Unit × Model :=
  model.withRegistry (model.registry.add attr)

/-- Registers attributes, all or none. -/
def addAttributes (model : Model) (attributes : List Attribute) : Except ModelError Unit × Model :=
  model.withRegistry (model.registry.addAll attributes)

/-- Registers an attribute of a new key and tells whether it did. -/
def addIfAbsent (model : Model) (attr : Attribute) : Except ModelError Bool × Model :=
  model.withRegistry (model.registry.addIfAbsent attr)

/-! ### Groups -/

/-- The registered attribute of a key, if it may become a member of a group. -/
def memberFor (model : Model) (name : String) (key : AttributeKey) : Except ModelError Attribute :=
  match model.attribute? key with
  | none => .error (.unknownGroupMember name key.text)
  | some attr =>
    match attr.group?.filter (· ≠ name) with
    | some other => .error (.unsupportedAttribute key.text (.grouped other))
    | none => .ok attr

/-- The group of the attributes of the given keys. -/
def resolveGroup (model : Model) (name : String) (keys : List AttributeKey) :
    Except ModelError Group :=
  match keys.mapM (model.memberFor name) with
  | .error error => .error error
  | .ok members => Group.resolve name members

/-- The model with a group in the place of the one of its name, and the attributes linked so. -/
def linkGroup (model : Model) (group : Group) : Model :=
  let previous := match model.group? group.name with
    | some known => known.members
    | none => []
  { model with
    registry := (model.registry.regroup previous none).regroup group.members (some group.name)
    groups := model.groups.put group }

/-- Makes a group of the attributes of the given keys. -/
def addGroup (model : Model) (name : String) (keys : List AttributeKey) :
    Except ModelError Unit × Model :=
  match model.resolveGroup name keys with
  | .error error => (.error error, model)
  | .ok group => (.ok (), model.linkGroup group)

/-! ### Style and layout -/

/-- The attribute that holds the style of a model. -/
def styleAttribute (model : Model) (style : TypeName) : Attribute :=
  { (Attribute.ofKey ⟨"style", style⟩).allowNull with
    package := model.header.generatedType.package
    origin? := some model.header.origin }

/-- Registers the style attribute of a type. -/
def setStyle (model : Model) (style : TypeName) : Except ModelError Unit × Model :=
  match model.addAttribute (model.styleAttribute style) with
  | (.error error, after) => (.error error, after)
  | (.ok (), after) => (.ok (), { after with style? := some style })

/-- The model with another layout. -/
def setAutoLayout (model : Model) (autoLayout : AutoLayout) : Model := { model with autoLayout }

/-! ### What the operations leave -/

section Parts

variable {α : Type} (model : Model) (result : α × Registry) (group : Group)

@[simp]
theorem fst_withRegistry : (model.withRegistry result).1 = result.1 := rfl

@[simp]
theorem groups_linkGroup : (model.linkGroup group).groups = model.groups.put group := rfl

/-- Linking a group registers nothing. -/
@[simp]
theorem keys_linkGroup :
    (model.linkGroup group).registry.attributes.keys = model.registry.attributes.keys := by
  simp [linkGroup]

end Parts

end Model

end ModelPlanner
