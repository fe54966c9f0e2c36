/-
**The attributes that a declaration's fields declare.**

Every field with the attribute annotation declares an attribute. The arguments of the annotation give
its default, whether the language supplies the default, whether it is required, its hash policy and
its group; another annotation makes it nullable.

* A field that is private, static or final cannot be an attribute.
* Without a stated policy, presence counts for presence-only types and functional interfaces, the
  value for all other types. An interface is functional when it has one method without a body.
-/

import ModelPlanner.Attribute
import ModelPlanner.Catalog
import ModelPlanner.Config

namespace ModelPlanner

/-! ### Inferred hash policies -/

/-- Whether a method has no body of its own. -/
def Member.isOpenMethod (member : Member) : Bool :=
  member.returnType?.isSome && !member.modifiers.has .static && !member.modifiers.has .defaultBody

/-- Whether a declaration is an interface with one method without a body. -/
def Declaration.isFunctional (declaration : Declaration) : Bool :=
  declaration.kind == .interfaceKind &&
    (declaration.members.filter Member.isOpenMethod).length == 1

/-- The hash policy of a type for which none is stated. -/
def inferPolicy (catalog : Catalog) (config : Config) (type : TypeName) : HashPolicy :=
  if type.isArray || type.isPrimitive then .full
  else if config.isPresenceOnly type.name || (catalog.resolve type).any Declaration.isFunctional then
    .presenceOnly
  else .full

/-! ### Fields -/

/-- An attribute with the group that its field names. -/
structure FieldAttribute where
  attr : Attribute
  group? : Option String
deriving DecidableEq

namespace FieldAttribute

/-- The hash policy that an annotation states, or else the one of the field's type. -/
def policyOf (catalog : Catalog) (config : Config) (name : String) (type : TypeName)
    (mark : Annotation) : Except ModelError HashPolicy :=
  match mark.arg? "hash" with
  | none => .ok (inferPolicy catalog config type)
  | some text =>
    match HashPolicy.ofText? text with
    | some policy => .ok policy
    | none => .error (.unsupportedAttribute name (.unknownPolicy text))

/-- The attribute of a field, before its policy and its place are filled in. -/
def drafted (config : Config) (field : Member) (type : TypeName) (mark : Annotation) : Attribute :=
  let fresh := Attribute.ofKey ⟨field.name, type⟩
  let defaulted := match mark.arg? "defaultValue" with
    | some code => { fresh with default := .explicit (Text.trim code) }
    | none => fresh
  let native :=
    if mark.flag "languageDefault" then { defaulted with default := .languageNative } else defaulted
  let nullable :=
    if (field.annotationNamed? config.nullableAnnotationName).isSome then native.allowNull
    else native
  { nullable with required := mark.flag "required" }

/-- The group that an annotation names; a blank name names none. -/
def groupOf? (mark : Annotation) : Option String :=
  ((mark.arg? "group").map Text.trim).filter (!·.isEmpty)

/-- The attribute that a field of a type declares. -/
def ofField (catalog : Catalog) (config : Config) (declaration : Declaration) (field : Member)
    (type : TypeName) (mark : Annotation) : Except ModelError FieldAttribute :=
  if field.modifiers.has .privateAccess || field.modifiers.has .static ||
      field.modifiers.has .final then
    .error (.unsupportedAttribute (declaration.qualifiedName ++ "." ++ field.name) .fixedField)
  else
    (policyOf catalog config field.name type mark).map fun policy =>
      { attr :=
          { drafted config field type mark with
            hashPolicy := policy
            packagePrivate := field.modifiers.isPackagePrivate
            package := declaration.package
            origin? := some declaration.qualifiedName }
        group? := groupOf? mark }

/-- A field that declares an attribute, with its type and the annotation that marks it. -/
def marked? (config : Config) (member : Member) : Option (Member × TypeName × Annotation) :=
  match member.fieldType?, member.annotationNamed? config.attributeAnnotationName with
  | some type, some mark => some (member, type, mark)
  | _, _ => none

/-- The attributes that the fields of a declaration declare, in field order. -/
def ofDeclaration (catalog : Catalog) (config : Config) (declaration : Declaration) :
    Except ModelError (List FieldAttribute) :=
  (declaration.members.filterMap (marked? config)).mapM fun (field, type, mark) =>
    ofField catalog config declaration field type mark

end FieldAttribute

end ModelPlanner
